/-
Module: DuckPass.Core.VaultService
Purpose: `VaultService` of `vault_service.cpp`: one cached vault over a shared
  vault file, with the merge that every write performs under the file lock.
Trusted boundary: the primitives of `DuckPass.Core.Crypto`.
Main exports: VaultService, mergeEntries, VaultService.save,
  VaultService.rekey, VaultService.addEntry, VaultService.updateEntry,
  VaultService.deleteEntry, Request
-/
import DuckPass.Core.Totp
import DuckPass.Core.VaultFile

namespace DuckPass

/-- The private state of a `VaultService`. -/
structure VaultService where
  vaultPath : Path
  masterPassword : SecureString
  vault : Vault
  deletedServices : List SecureString

/-- How the system and library calls of one locked section go.  `rekey` writes
the backup file and then the vault file; `save` only the latter.  `protect` is
what the `ProtectedString` of the new password throws, if it does. -/
structure CommitEnv where
  lock : LockFaults
  load : LoadFaults
  encrypt : SealEnv
  backupWrite : WriteFaults
  vaultWrite : WriteFaults
  protect : Option DuckpassError

/-- What a call leaves behind.  An exception does not undo what the call did to
the instance or to the directory before it was thrown. -/
structure Outcome where
  result : Except DuckpassError Unit
  self : VaultService
  storage : Storage

/-- The loop of `merge_disk_state_with_lock_held`: a disk entry that this
instance did not delete is taken over if there is no local one or the local one
is strictly older. -/
def mergeEntries (deletedServices : List SecureString) :
    List VaultEntry → Vault → Clock → Vault × Clock
  | [], vault, clock => (vault, clock)
  | diskEntry :: rest, vault, clock =>
      if diskEntry.service ∈ deletedServices then
        mergeEntries deletedServices rest vault clock
      else
        match vault.getEntry diskEntry.service with
        | none =>
            let (vault, clock) := vault.addEntry diskEntry clock
            mergeEntries deletedServices rest vault clock
        | some localEntry =>
            if diskEntry.lastUpdated > localEntry.lastUpdated then
              let (vault, clock) := vault.addEntry diskEntry clock
              mergeEntries deletedServices rest vault clock
            else mergeEntries deletedServices rest vault clock

namespace VaultService

/-- The constructor: load and decrypt the vault. -/
def construct (primitives : Primitives) (faults : LoadFaults) (path : Path)
    (masterPassword : SecureString) (files : Files) (clock : Clock) :
    Except DuckpassError VaultService := do
  let (vault, _) ← loadVault primitives faults files path masterPassword clock
  pure ⟨path, masterPassword, vault, []⟩

/-- `merge_disk_state_with_lock_held`. -/
def mergeDiskStateWithLockHeld (primitives : Primitives) (faults : LoadFaults)
    (self : VaultService) (files : Files) (clock : Clock) :
    Except DuckpassError VaultService :=
  if (files self.vaultPath).isSome then do
    let (diskVault, clock) ← loadVault primitives faults files self.vaultPath
      self.masterPassword clock
    pure { self with
      vault :=
        (mergeEntries self.deletedServices diskVault.entries self.vault
          clock).1 }
  else pure self

/-- `commit_vault_with_lock_held`. -/
def commitVaultWithLockHeld (primitives : Primitives) (env : CommitEnv)
    (targetPassword : SecureString) (self : VaultService)
    (storage : Storage) : Outcome :=
  match saveVault primitives env.encrypt env.vaultWrite self.vaultPath
      self.vault targetPassword true storage with
  | (.error error, storage) => ⟨.error error, self, storage⟩
  | (.ok (), storage) =>
      ⟨.ok (), { self with deletedServices := [] }, storage⟩

/-- `save`. -/
def save (primitives : Primitives) (env : CommitEnv) (clock : Clock)
    (self : VaultService) (storage : Storage) : Outcome :=
  match acquireFileLock env.lock self.vaultPath storage with
  | (.error error, storage) => ⟨.error error, self, storage⟩
  | (.ok (), storage) =>
      match mergeDiskStateWithLockHeld primitives env.load self storage.files
          clock with
      | .error error => ⟨.error error, self, storage⟩
      | .ok self =>
          commitVaultWithLockHeld primitives env self.masterPassword self
            storage

/-- `rekey` steps 2 to 5, after the merge. -/
def rekeyWithLockHeld (primitives : Primitives) (env : CommitEnv)
    (newMasterPassword : SecureString) (self : VaultService)
    (storage : Storage) : Outcome :=
  match serializeAndEncryptVault primitives env.encrypt self.vault
      newMasterPassword with
  | .error error => ⟨.error error, self, storage⟩
  | .ok newBlob =>
      match writeFileAtomic env.backupWrite self.vaultPath.backup newBlob false
          storage with
      | (.error error, storage) => ⟨.error error, self, storage⟩
      | (.ok (), storage) =>
          match writeFileAtomic env.vaultWrite self.vaultPath newBlob false
              storage with
          | (.error error, storage) => ⟨.error error, self, storage⟩
          | (.ok (), storage) =>
              -- Both files are written by now.
              match env.protect with
              | some error => ⟨.error error, self, storage⟩
              | none =>
                  ⟨.ok (),
                    { self with
                      masterPassword := newMasterPassword
                      deletedServices := [] },
                    storage⟩

/-- `rekey` from `acquire_file_lock` on. -/
def rekeyLocked (primitives : Primitives) (env : CommitEnv) (clock : Clock)
    (newMasterPassword : SecureString) (self : VaultService)
    (storage : Storage) : Outcome :=
  match acquireFileLock env.lock self.vaultPath storage with
  | (.error error, storage) => ⟨.error error, self, storage⟩
  | (.ok (), storage) =>
      match mergeDiskStateWithLockHeld primitives env.load self storage.files
          clock with
      | .error error => ⟨.error error, self, storage⟩
      | .ok self =>
          rekeyWithLockHeld primitives env newMasterPassword self storage

/-- The check with which `rekey` begins. -/
def checkNewMasterPassword (newMasterPassword : SecureString) :
    Except DuckpassError Unit :=
  if newMasterPassword.isEmpty then
    .error (.invalidArgument "New master password cannot be empty.")
  else .ok ()

/-- `rekey`. -/
def rekey (primitives : Primitives) (env : CommitEnv) (clock : Clock)
    (newMasterPassword : SecureString) (self : VaultService)
    (storage : Storage) : Outcome :=
  match checkNewMasterPassword newMasterPassword with
  | .error error => ⟨.error error, self, storage⟩
  | .ok () =>
      rekeyLocked primitives env clock newMasterPassword self storage

/-- The Base32 check of a non-empty TOTP secret. -/
def checkTotpSecret (totpSecret : SecureString) : Except DuckpassError Unit :=
  if totpSecret.isEmpty then .ok ()
  else do
    let _ ← decodeBase32 totpSecret
    pure ()

/-- `add_entry` up to the call of `save`: every check comes before the one
change of the cached vault. -/
def stageAdd (service username password totpSecret : SecureString)
    (clock : Clock) (self : VaultService) :
    Except DuckpassError (VaultService × Clock) := do
  if service.isEmpty then
    throw (.invalidArgument "Service name cannot be empty.")
  if (self.vault.getEntry service).isSome then
    throw (.invalidArgument ("Service already exists. " ++
      "Please delete it first if you want to update."))
  if username.isEmpty then
    throw (.invalidArgument "Username cannot be empty.")
  if password.isEmpty then
    throw (.invalidArgument "Password cannot be empty.")
  checkTotpSecret totpSecret
  let entry : VaultEntry :=
    ⟨service, username, password, totpSecret, clock.time⟩
  let (vault, clock) := self.vault.addEntry entry clock.tick
  pure ({ self with vault := vault }, clock)

/-- A given user name or password replaces the old value and must not be
empty. -/
def checkedField (emptyMessage : String) (new : Option SecureString)
    (old : SecureString) : Except DuckpassError SecureString :=
  match new with
  | none => .ok old
  | some value =>
      if value.isEmpty then .error (.invalidArgument emptyMessage)
      else .ok value

/-- A given TOTP secret replaces the old one; the empty secret clears it. -/
def checkedTotpSecret (new : Option SecureString) (old : SecureString) :
    Except DuckpassError SecureString :=
  match new with
  | none => .ok old
  | some value => do
      checkTotpSecret value
      pure value

/-- `update_entry` up to the call of `save`: a copy of the cached entry with
the given fields replaced and a fresh time. -/
def stageUpdate (service : SecureString)
    (newUsername newPassword newTotpSecret : Option SecureString)
    (clock : Clock) (self : VaultService) :
    Except DuckpassError (VaultService × Clock) :=
  match self.vault.getEntry service with
  | none => .error (.invalidArgument "Service not found.")
  | some existing => do
      let username ← checkedField "Username cannot be empty." newUsername
        existing.username
      let password ← checkedField "Password cannot be empty." newPassword
        existing.password
      let totpSecret ← checkedTotpSecret newTotpSecret existing.totpSecret
      let updated : VaultEntry :=
        ⟨existing.service, username, password, totpSecret, clock.time⟩
      let (vault, clock) := self.vault.addEntry updated clock.tick
      pure ({ self with vault := vault }, clock)

/-- `delete_entry` up to the call of `save`. -/
def stageDelete (service : SecureString) (self : VaultService) :
    Except DuckpassError VaultService :=
  if (self.vault.removeEntry service).2 then
    .ok { self with
      vault := (self.vault.removeEntry service).1
      deletedServices := self.deletedServices ++ [service] }
  else .error (.invalidArgument "Service not found.")

/-- `add_entry`. -/
def addEntry (primitives : Primitives) (env : CommitEnv) (clock : Clock)
    (service username password totpSecret : SecureString)
    (self : VaultService) (storage : Storage) : Outcome :=
  match stageAdd service username password totpSecret clock self with
  | .error error => ⟨.error error, self, storage⟩
  | .ok (self, clock) => save primitives env clock self storage

/-- `update_entry`. -/
def updateEntry (primitives : Primitives) (env : CommitEnv) (clock : Clock)
    (service : SecureString)
    (newUsername newPassword newTotpSecret : Option SecureString)
    (self : VaultService) (storage : Storage) : Outcome :=
  match stageUpdate service newUsername newPassword newTotpSecret clock self
      with
  | .error error => ⟨.error error, self, storage⟩
  | .ok (self, clock) => save primitives env clock self storage

/-- `delete_entry`. -/
def deleteEntry (primitives : Primitives) (env : CommitEnv) (clock : Clock)
    (service : SecureString) (self : VaultService) (storage : Storage) :
    Outcome :=
  match stageDelete service self with
  | .error error => ⟨.error error, self, storage⟩
  | .ok self => save primitives env clock self storage

/-- `get_entry`. -/
def getEntry (self : VaultService) (service : SecureString) :
    Option VaultEntry :=
  self.vault.getEntry service

end VaultService

/-! ## Calls in two halves

Everything before `acquire_file_lock` touches only the instance; everything
after it runs under the exclusive lock.  Between the two halves of one call
other instances may run. -/

/-- A call of one of the five writing methods. -/
inductive Request where
  | addEntry (service username password totpSecret : SecureString)
  | updateEntry (service : SecureString)
      (newUsername newPassword newTotpSecret : Option SecureString)
  | deleteEntry (service : SecureString)
  | save
  | rekey (newMasterPassword : SecureString)
deriving Repr, Inhabited, DecidableEq

namespace Request

/-- The service a call writes, if it writes one. -/
def target : Request → Option SecureString
  | addEntry service _ _ _ => some service
  | updateEntry service _ _ _ => some service
  | deleteEntry service => some service
  | save => none
  | rekey _ => none

/-- The half of a call before the lock. -/
def stage (request : Request) (clock : Clock) (self : VaultService) :
    Except DuckpassError VaultService :=
  match request with
  | addEntry service username password totpSecret => do
      let (self, _) ← self.stageAdd service username password totpSecret clock
      pure self
  | updateEntry service newUsername newPassword newTotpSecret => do
      let (self, _) ← self.stageUpdate service newUsername newPassword
        newTotpSecret clock
      pure self
  | deleteEntry service => self.stageDelete service
  | save => pure self
  | rekey newMasterPassword => do
      VaultService.checkNewMasterPassword newMasterPassword
      pure self

/-- The half of a call that runs under the lock. -/
def locked (primitives : Primitives) (request : Request) (env : CommitEnv)
    (clock : Clock) (self : VaultService) (storage : Storage) : Outcome :=
  match request with
  | rekey newMasterPassword =>
      self.rekeyLocked primitives env clock newMasterPassword storage
  | _ => self.save primitives env clock storage

/-- A whole call, as its caller sees it. -/
def execute (primitives : Primitives) (request : Request) (env : CommitEnv)
    (clock : Clock) (self : VaultService) (storage : Storage) : Outcome :=
  match request with
  | addEntry service username password totpSecret =>
      self.addEntry primitives env clock service username password totpSecret
        storage
  | updateEntry service newUsername newPassword newTotpSecret =>
      self.updateEntry primitives env clock service newUsername newPassword
        newTotpSecret storage
  | deleteEntry service =>
      self.deleteEntry primitives env clock service storage
  | save => self.save primitives env clock storage
  | rekey newMasterPassword =>
      self.rekey primitives env clock newMasterPassword storage

end Request

end DuckPass
