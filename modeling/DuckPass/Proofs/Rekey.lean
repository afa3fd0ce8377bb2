/-
Module: DuckPass.Proofs.Rekey
Purpose: Changes of the master password: `rekey` is crash-safe, an instance
  that holds an outdated password cannot touch the vault, and the password
  changes at a `rekey` that returns, or at one that throws because it cannot
  keep the new password.
Trusted boundary: none beyond the named properties of the primitives.
Main exports: Storage.moments, RekeyUnkept, RekeySafe, rekey_crash_safe,
  Event.KeepsPassword, stale_password_never_clobbers
-/
import DuckPass.System.Invariant
import DuckPass.System.Symbolic

namespace DuckPass

variable {path : Path} {primitives : Primitives}

open Storage (Untouched)

/-! ## Crash safety -/

/-- Every state the directory was in since recording began.  A crash leaves one
of them behind. -/
def Storage.moments (storage : Storage) : List Files :=
  storage.files :: storage.history

theorem Storage.Untouched.moments {files : Files} {storage : Storage}
    (untouched : Untouched path (.start files) storage) :
    ∀ moment ∈ storage.moments, moment path = files path := by
  obtain ⟨recorded, historyEq, same⟩ := untouched.during
  intro moment member
  rcases List.mem_cons.mp member with rfl | past
  · exact untouched.now
  · rw [historyEq] at past
    rcases List.mem_append.mp past with inRecorded | impossible
    · exact same moment inRecorded
    · cases impossible

/-- At every moment the file is what it was or what it becomes. -/
theorem Replaced.moments {files : Files} {storage : Storage}
    {blob : SecureBytes}
    (replaced : Replaced path blob (.start files) (.ok ()) storage) :
    ∀ moment ∈ storage.moments,
      moment path = files path ∨ moment path = some blob := by
  cases replaced with
  | @returned middle files untouched content =>
      intro moment member
      rcases List.mem_cons.mp member with rfl | past
      · exact .inr content
      · exact .inl (untouched.moments moment past)

/-- What a `rekey` leaves that has done all its storage work and then throws:
both files hold the new blob, and the instance has the old password. -/
structure RekeyUnkept (primitives : Primitives) (self : VaultService)
    (newMasterPassword : SecureString) (outcome : Outcome) : Prop where
  masterPassword : outcome.self.masterPassword = self.masterPassword
  stored : ∃ newBlob,
    SealedBlob primitives newMasterPassword outcome.self.vault newBlob ∧
    outcome.storage.files self.vaultPath = some newBlob ∧
    outcome.storage.files self.vaultPath.backup = some newBlob

/-- What holds of one call of `rekey`, whichever system call fails and wherever
the process crashes.  An exception means that the vault file was left alone,
unless it is the one with which the new password could not be kept in memory,
once both files were written. -/
structure RekeySafe (primitives : Primitives) (env : CommitEnv)
    (self : VaultService) (clock : Clock) (newMasterPassword : SecureString)
    (files : Files) (outcome : Outcome) : Prop where
  atomic : (∀ moment ∈ outcome.storage.moments,
      moment self.vaultPath = files self.vaultPath) ∨
    ∃ newBlob,
      SealedBlob primitives newMasterPassword outcome.self.vault newBlob ∧
      ∀ moment ∈ outcome.storage.moments,
        moment self.vaultPath = files self.vaultPath ∨
          moment self.vaultPath = some newBlob
  failed : ∀ error, outcome.result = .error error →
    ((∀ moment ∈ outcome.storage.moments,
      moment self.vaultPath = files self.vaultPath) ∧
    outcome.self.masterPassword = self.masterPassword ∧
    ∀ faults later,
      loadVault primitives faults outcome.storage.files self.vaultPath
          outcome.self.masterPassword later =
        loadVault primitives faults files self.vaultPath self.masterPassword
          later) ∨
    env.protect = some error ∧
      RekeyUnkept primitives self newMasterPassword outcome
  returned : outcome.result = .ok () →
    outcome.self.masterPassword = newMasterPassword ∧
    ∃ newBlob,
      outcome.storage.files self.vaultPath = some newBlob ∧
      outcome.storage.files self.vaultPath.backup = some newBlob ∧
      (∀ later, openVaultBlob primitives none newBlob newMasterPassword
        later = .ok (outcome.self.vault.restamp later)) ∧
      (self.vault.Stamped → clock.NonZero → ∀ later,
        openVaultBlob primitives none newBlob newMasterPassword later =
          .ok (outcome.self.vault, later)) ∧
      ∀ password, password ≠ newMasterPassword → ∀ later opened,
        openVaultBlob primitives none newBlob password later ≠ .ok opened

theorem RekeySafe.of_untouched {env : CommitEnv} {self after : VaultService}
    {clock : Clock} {newMasterPassword : SecureString} {files : Files}
    {storage : Storage} {error : DuckpassError}
    (untouched : Untouched self.vaultPath (.start files) storage)
    (samePassword : after.masterPassword = self.masterPassword) :
    RekeySafe primitives env self clock newMasterPassword files
      ⟨.error error, after, storage⟩ where
  atomic := .inl untouched.moments
  failed := by
    intro _ _
    refine .inl ⟨untouched.moments, samePassword, ?_⟩
    intro faults later
    dsimp only
    rw [samePassword]
    exact loadVault_congr faults untouched.now self.masterPassword later
  returned := by
    intro impossible
    cases impossible

/-- However the locked section of a `rekey` ends, the call is safe. -/
theorem LockedOutcome.rekeySafe (ideal : primitives.Ideal)
    {env : CommitEnv} {clock : Clock} {self : VaultService}
    {newMasterPassword : SecureString} {files : Files} {outcome : Outcome}
    (ended : LockedOutcome primitives (.rekey newMasterPassword) env clock self
      files outcome) :
    RekeySafe primitives env self clock newMasterPassword files outcome := by
  cases ended with
  | refused vaultFile => exact .of_untouched vaultFile rfl
  | failed merges vaultFile => exact .of_untouched vaultFile rfl
  | @unkept _ error merged blob storage isRekey fault merges encrypted
      replaced backupFile =>
      cases isRekey
      have current : storage.files self.vaultPath = some blob := by
        cases replaced with
        | returned _ content => exact content
      refine ⟨.inr ⟨blob, encrypted, replaced.moments⟩, ?_, ?_⟩
      · intro thrown same
        cases same
        exact .inr ⟨fault, rfl, blob, encrypted, current, backupFile⟩
      · intro impossible
        cases impossible
  | @returned merged blob storage merges encrypted replaced backupFile =>
      refine ⟨.inr ⟨blob, encrypted, replaced.moments⟩, ?_, ?_⟩
      · intro error impossible
        cases impossible
      · intro _
        have current : storage.files self.vaultPath = some blob := by
          cases replaced with
          | returned _ content => exact content
        refine ⟨rfl, blob, current, backupFile _ rfl, ?_, ?_, ?_⟩
        · exact encrypted.opens ideal.toRoundTrips
        · intro stamped nonZero
          exact encrypted.opens_stamped ideal.toRoundTrips
            (merges.stamped stamped nonZero)
        · intro password differs later opened impossible
          exact differs (encrypted.open_eq ideal impossible).1

/-- `rekey` is crash-safe: in every state of the instance and the directory,
for every new password and whatever call fails, the vault file is at all times
its old content or the complete new one; an exception leaves the file and the
master password as they were, unless it is thrown after all storage work; and
after a return the vault file and its backup hold the same encryption of the
cached vault, which only the new password opens. -/
theorem rekey_crash_safe (ideal : primitives.Ideal) (self : VaultService)
    (env : CommitEnv) (clock : Clock) (newMasterPassword : SecureString)
    (files : Files) :
    RekeySafe primitives env self clock newMasterPassword files
      (self.rekey primitives env clock newMasterPassword (.start files)) := by
  unfold VaultService.rekey
  cases VaultService.checkNewMasterPassword newMasterPassword with
  | error error => exact .of_untouched (.refl _ _) rfl
  | ok done =>
      exact (locked_cases primitives (.rekey newMasterPassword) env clock self
        files).rekeySafe ideal

namespace Rekey

open Symbolic (calm masterPassword)

/-- The rename over the vault file fails, after the backup was replaced. -/
def renameFails : CommitEnv :=
  { calm with
    vaultWrite := { WriteFaults.none with renameErrno := some "EIO" } }

def service : VaultService :=
  ⟨Symbolic.path, masterPassword, Vault.empty, []⟩

def files : Files :=
  Symbolic.files (Vault.empty.store (Symbolic.entry 2 5)) masterPassword

end Rekey

/-- A `rekey` whose last rename fails throws, and is safe. -/
theorem rekey_crash_safe_rename_fails :
    let outcome := Rekey.service.rekey Symbolic.primitives Rekey.renameFails
      (.constant 6) [0x6E] (.start Rekey.files)
    outcome.result ≠ .ok () ∧
      RekeySafe Symbolic.primitives Rekey.renameFails Rekey.service
        (.constant 6) [0x6E] Rekey.files outcome :=
  ⟨by decide +kernel,
    rekey_crash_safe Symbolic.ideal Rekey.service Rekey.renameFails
      (.constant 6) [0x6E] Rekey.files⟩

/-! ## The last step -/

section LastStep

variable {self : VaultService} {env : CommitEnv} {clock : Clock}
  {newMasterPassword : SecureString} {error : DuckpassError}

/-- Steps 2 to 4 do not depend on whether step 5 fails. -/
theorem rekeyWithLockHeld_unkept {storage : Storage}
    (fault : env.protect = some error)
    (returned : (self.rekeyWithLockHeld primitives
      { env with protect := none } newMasterPassword storage).result =
        .ok ()) :
    (self.rekeyWithLockHeld primitives env newMasterPassword storage).result =
        .error error ∧
      (self.rekeyWithLockHeld primitives env newMasterPassword
          storage).storage =
        (self.rekeyWithLockHeld primitives { env with protect := none }
          newMasterPassword storage).storage := by
  unfold VaultService.rekeyWithLockHeld at returned ⊢
  dsimp only at returned ⊢
  rw [fault]
  split
  · next failed =>
      rw [failed] at returned
      cases returned
  · next newBlob encrypted =>
      rw [encrypted] at returned
      dsimp only at returned ⊢
      split
      · next failed =>
          rw [failed] at returned
          cases returned
      · next backedUp =>
          rw [backedUp] at returned
          dsimp only at returned ⊢
          split
          · next failed =>
              rw [failed] at returned
              cases returned
          · exact ⟨rfl, rfl⟩

/-- Up to its last step a `rekey` does not depend on whether the new password
can be kept in memory. -/
theorem rekeyLocked_unkept {storage : Storage}
    (fault : env.protect = some error)
    (returned : (self.rekeyLocked primitives { env with protect := none } clock
      newMasterPassword storage).result = .ok ()) :
    (self.rekeyLocked primitives env clock newMasterPassword storage).result =
        .error error ∧
      (self.rekeyLocked primitives env clock newMasterPassword
          storage).storage =
        (self.rekeyLocked primitives { env with protect := none } clock
          newMasterPassword storage).storage := by
  unfold VaultService.rekeyLocked at returned ⊢
  dsimp only at returned ⊢
  split
  · next failed =>
      rw [failed] at returned
      cases returned
  · next locked =>
      rw [locked] at returned
      dsimp only at returned ⊢
      split
      · next failed =>
          rw [failed] at returned
          cases returned
      · next merged =>
          rw [merged] at returned
          exact rekeyWithLockHeld_unkept fault returned

/-- So a `rekey` that could have returned and cannot keep the new password
throws, and the file opens with that password. -/
theorem rekey_unkept (ideal : primitives.Ideal) {files : Files}
    (fault : env.protect = some error)
    (returned : (self.rekey primitives { env with protect := none } clock
      newMasterPassword (.start files)).result = .ok ()) :
    let outcome := self.rekey primitives env clock newMasterPassword
      (.start files)
    outcome.result = .error error ∧
      OpensWith primitives (outcome.storage.files self.vaultPath)
        newMasterPassword := by
  unfold VaultService.rekey at returned ⊢
  cases checked : VaultService.checkNewMasterPassword newMasterPassword with
  | error invalid =>
      rw [checked] at returned
      cases returned
  | ok done =>
      rw [checked] at returned
      dsimp only at returned ⊢
      obtain ⟨_, _, written⟩ :=
        (locked_cases primitives (.rekey newMasterPassword)
          { env with protect := none } clock self files).rekeySafe ideal
      obtain ⟨_, newBlob, current, _, opened, _⟩ := written returned
      obtain ⟨threw, sameStorage⟩ := rekeyLocked_unkept fault returned
      rw [sameStorage]
      exact ⟨threw, newBlob, .constant 0, _, current, opened _⟩

end LastStep

/-! ## Outdated passwords -/

/-- At most one password opens a file. -/
theorem OpensWith.unique (ideal : primitives.Ideal)
    {content : Option SecureBytes} {password otherPassword : SecureString}
    (one : OpensWith primitives content password)
    (two : OpensWith primitives content otherPassword) :
    password = otherPassword := by
  obtain ⟨blob, _, _, present, opened⟩ := one
  obtain ⟨otherBlob, _, _, otherPresent, otherOpened⟩ := two
  rw [present] at otherPresent
  cases otherPresent
  exact openVaultBlob_password_unique ideal opened otherOpened

/-- A merge with a file that is there shows that the instance's password opens
it. -/
theorem MergesTo.opensWith {self : VaultService}
    {content : Option SecureBytes} {clock : Clock} {merged : Vault}
    {blob : SecureBytes}
    (merges : MergesTo primitives self content clock merged)
    (present : content = some blob) :
    OpensWith primitives content self.masterPassword := by
  cases merges with
  | missing absent =>
      rw [present] at absent
      cases absent
  | @loaded other disk rest content opened =>
      exact ⟨other, clock, (disk, rest), content, opened⟩

/-- A commit with a password that does not open the file is refused. -/
theorem CommitEffect.refused_of_stale {request : Request} {env : CommitEnv}
    {clock : Clock} {self service : VaultService} {files after : Files}
    {reply : Reply} {blob : SecureBytes}
    (effect : CommitEffect primitives path request env clock self files service
      after reply)
    (present : files path = some blob)
    (stale : ¬ OpensWith primitives (files path) self.masterPassword) :
    (∃ error, reply = .threw error) ∧ after path = files path ∧
      after path.backup = files path.backup := by
  cases effect with
  | refused vaultFile backupFile => exact ⟨⟨_, rfl⟩, vaultFile, backupFile⟩
  | failed merges => exact absurd (merges.opensWith present) stale
  | returned merges => exact absurd (merges.opensWith present) stale
  | unkept _ _ merges => exact absurd (merges.opensWith present) stale

/-- What a commit does to the password that opens the file. -/
theorem CommitEffect.password {request : Request} {env : CommitEnv}
    {clock : Clock} {self service : VaultService} {files after : Files}
    {reply : Reply} {password : SecureString} (ideal : primitives.Ideal)
    (effect : CommitEffect primitives path request env clock self files service
      after reply)
    (opens : OpensWith primitives (files path) password) :
    OpensWith primitives (after path) password ∨
      ∃ newPassword, request = .rekey newPassword ∧
        self.masterPassword = password ∧
        (reply = .returned ∨
          ∃ error, env.protect = some error ∧ reply = .threw error) ∧
        OpensWith primitives (after path) newPassword := by
  rcases effect.file_cases with
    same | ⟨merged, blob, ended, merges, encrypted, vaultFile⟩
  · rw [same]
    exact .inl opens
  · obtain ⟨_, _, _, present, _⟩ := id opens
    have held := (merges.opensWith present).unique ideal opens
    have newOpens := encrypted.opensWith ideal.toRoundTrips
    rw [← vaultFile] at newOpens
    cases request with
    | rekey newPassword =>
        refine .inr ⟨newPassword, rfl, held, ?_, newOpens⟩
        rcases ended with returned | ⟨_, error, _, fault, threw⟩
        · exact .inl returned
        · exact .inr ⟨error, fault, threw⟩
    | addEntry => exact .inl (held ▸ newOpens)
    | updateEntry => exact .inl (held ▸ newOpens)
    | deleteEntry => exact .inl (held ▸ newOpens)
    | save => exact .inl (held ▸ newOpens)

/-- The file opens with the same password after the step, or the step is the
commit of a `rekey` by an instance that held the password. -/
theorem step_password (ideal : primitives.Ideal)
    {system next : System path} {event : Event} {reply : Reply}
    {password : SecureString}
    (stepped : system.step primitives event = some (next, reply))
    (opens : OpensWith primitives (system.files path) password) :
    OpensWith primitives (next.files path) password ∨
      ∃ id env clock session newPassword, event = .commit id env clock ∧
        system.sessions id = some session ∧
        session.pending = some (.rekey newPassword) ∧
        session.service.masterPassword = password ∧
        (reply = .returned ∨
          ∃ error, env.protect = some error ∧ reply = .threw error) ∧
        OpensWith primitives (next.files path) newPassword := by
  cases step_cases stepped with
  | notConstructed => exact .inl opens
  | constructed => exact .inl opens
  | rejected => exact .inl opens
  | called => exact .inl opens
  | destroyed => exact .inl opens
  | committed present pending effect =>
      rcases effect.password ideal opens with
        same | ⟨newPassword, rfl, held, ended, newOpens⟩
      · exact .inl same
      · exact .inr ⟨_, _, _, _, newPassword, rfl, present, pending, held,
          ended, newOpens⟩

/-- The new password of a `rekey` to another one can be kept in memory. -/
def Event.KeepsPassword (system : System path) (event : Event) : Prop :=
  ∀ id env clock session newPassword, event = .commit id env clock →
    system.sessions id = some session →
    session.pending = some (.rekey newPassword) →
    newPassword ≠ session.service.masterPassword → env.protect = none

/-- In every run of any number of instances with any passwords, at every step:
before the lock nothing is written; an instance whose password does not open
the vault file cannot get past its merge, throws, and leaves the vault file and
the backup as they are; and, unless a `rekey` cannot keep its new password, the
password that opens the vault file becomes another one only at a `rekey` to it
that returns at an instance that held the old one. -/
theorem stale_password_never_clobbers (ideal : primitives.Ideal)
    {files : Files} {events : List Event} {system next : System path}
    {replies : List Reply} {event : Event} {reply : Reply}
    (finished : (System.initial path files).run primitives events =
      some (system, replies))
    (stepped : system.step primitives event = some (next, reply))
    (keeps : event.KeepsPassword system) :
    (∀ id request clock, event = .call id request clock →
      next.files = system.files) ∧
    (∀ id env clock session, event = .commit id env clock →
      system.sessions id = some session →
      ¬ OpensWith primitives (system.files path)
        session.service.masterPassword →
      (∃ error, reply = .threw error) ∧
        next.files path = system.files path ∧
        next.files path.backup = system.files path.backup) ∧
    (∀ password, OpensWith primitives (system.files path) password →
      ∃ newPassword, OpensWith primitives (next.files path) newPassword) ∧
    (∀ password newPassword,
      OpensWith primitives (system.files path) password →
      OpensWith primitives (next.files path) newPassword →
      newPassword ≠ password →
      ∃ id env clock session, event = .commit id env clock ∧
        system.sessions id = some session ∧
        session.pending = some (.rekey newPassword) ∧
        session.service.masterPassword = password ∧ reply = .returned) := by
  refine ⟨?_, ?_, ?_, ?_⟩
  · rintro id request clock rfl
    cases step_cases stepped with
    | rejected => rfl
    | called => rfl
  · rintro id env clock session rfl present stale
    obtain ⟨blob, content⟩ := run_file_present finished present
    cases step_cases stepped with
    | committed found _ effect =>
        rw [present] at found
        cases found
        exact effect.refused_of_stale content stale
  · intro password opens
    rcases step_password ideal stepped opens with
      same | ⟨_, _, _, _, newPassword, _, _, _, _, _, newOpens⟩
    · exact ⟨password, same⟩
    · exact ⟨newPassword, newOpens⟩
  · intro password newPassword opens newOpens differs
    rcases step_password ideal stepped opens with
      same | ⟨id, env, clock, session, changed, isCommit, present, pending,
        held, ended, changedOpens⟩
    · exact absurd (newOpens.unique ideal same) differs
    · rw [newOpens.unique ideal changedOpens] at differs ⊢
      refine ⟨id, env, clock, session, isCommit, present, pending, held, ?_⟩
      rcases ended with returned | ⟨error, fault, _⟩
      · exact returned
      · rw [← held] at differs
        rw [keeps id env clock session changed isCommit present pending
          differs] at fault
        cases fault

namespace Rekey

open Symbolic (calm masterPassword)

/-- The first of two instances changes the master password; the second one,
which does not know, is called to add an entry. -/
def history : List Event :=
  [.construct 0 masterPassword .none (.constant 5),
    .construct 1 masterPassword .none (.constant 5),
    .call 0 (.rekey [0x6E]) (.constant 6),
    .commit 0 calm (.constant 6),
    .call 1 (.addEntry Symbolic.service [1] [2] []) (.constant 7)]

def outdated : System Symbolic.path :=
  Symbolic.reached Symbolic.onEmptyVault history

end Rekey

/-- The second instance's commit throws and writes nothing. -/
theorem stale_password_never_clobbers_add :
    let next := Symbolic.reached Rekey.outdated
      [.commit 1 Symbolic.calm (.constant 7)]
    next.files Symbolic.path = Rekey.outdated.files Symbolic.path ∧
      next.files Symbolic.path.backup =
        Rekey.outdated.files Symbolic.path.backup := by
  intro next
  have finished : Symbolic.onEmptyVault.run Symbolic.primitives
      Rekey.history =
        some (Rekey.outdated,
          [.constructed, .constructed, .waiting, .returned, .waiting]) :=
    Symbolic.run_reached _ _ _ (by decide +kernel)
  have stepped : Rekey.outdated.step Symbolic.primitives
      (.commit 1 Symbolic.calm (.constant 7)) =
        some (next, .threw .wrongPassword) :=
    Symbolic.step_reached _ _ _ (by decide +kernel)
  have passwords : (Rekey.outdated.sessions 1).map
      (fun session => session.service.masterPassword) =
        some Symbolic.masterPassword := by
    decide +kernel
  obtain ⟨session, present, held⟩ := Option.map_eq_some_iff.mp passwords
  have opens : OpensWith Symbolic.primitives
      (Rekey.outdated.files Symbolic.path) [0x6E] :=
    Symbolic.opensWith_of_entriesOnDisk (.constant 7) [] (by decide +kernel)
  have stale : ¬ OpensWith Symbolic.primitives
      (Rekey.outdated.files Symbolic.path)
      session.service.masterPassword := by
    intro alsoOpens
    rw [held] at alsoOpens
    exact absurd (alsoOpens.unique Symbolic.ideal opens) (by decide)
  have keeps : (Event.commit 1 Symbolic.calm (.constant 7)).KeepsPassword
      Rekey.outdated := by
    rintro _ _ _ _ _ ⟨⟩ _ _ _
    rfl
  obtain ⟨_, unopened, _, _⟩ := stale_password_never_clobbers Symbolic.ideal
    finished stepped keeps
  exact (unopened 1 _ _ session rfl present stale).2

namespace Rekey

open Symbolic (calm masterPassword)

/-- The random bytes for the new password in memory are not to be had. -/
def noRandomBytes : DuckpassError := .crypto "Failed to generate random bytes."

def beforeRekey : System Symbolic.path :=
  Symbolic.reached Symbolic.onEmptyVault
    [.construct 0 masterPassword .none (.constant 5),
      .call 0 (.rekey [0x6E]) (.constant 6)]

def unkept : Event :=
  .commit 0 { calm with protect := some noRandomBytes } (.constant 6)

end Rekey

/-- A `rekey` by an instance that holds the password throws, and from then on
another password opens the vault file. -/
theorem thrown_rekey_changes_password :
    let next := Symbolic.reached Rekey.beforeRekey [Rekey.unkept]
    (Rekey.beforeRekey.step Symbolic.primitives Rekey.unkept).map Prod.snd =
        some (.threw Rekey.noRandomBytes) ∧
      (next.sessions 0).map (fun session => session.service.masterPassword) =
        some Symbolic.masterPassword ∧
      OpensWith Symbolic.primitives (Rekey.beforeRekey.files Symbolic.path)
        Symbolic.masterPassword ∧
      OpensWith Symbolic.primitives (next.files Symbolic.path) [0x6E] ∧
      ¬ OpensWith Symbolic.primitives (next.files Symbolic.path)
        Symbolic.masterPassword := by
  intro next
  have opens : OpensWith Symbolic.primitives (next.files Symbolic.path)
      [0x6E] :=
    Symbolic.opensWith_of_entriesOnDisk (.constant 7) [] (by decide +kernel)
  refine ⟨by decide +kernel, by decide +kernel,
    Symbolic.opensWith_of_entriesOnDisk (.constant 7) [] (by decide +kernel),
    opens, ?_⟩
  intro alsoOpens
  exact absurd (alsoOpens.unique Symbolic.ideal opens) (by decide)

end DuckPass
