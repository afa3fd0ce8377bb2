/-
Module: DuckPass.Proofs.BackupHistory
Purpose: What the backup holds at every moment of the work under the lock, and
  what becomes of the vault file and its backup over whole runs in which
  processes are killed: the vault always opens, and after a `rekey` neither
  file goes back to an older password.
Trusted boundary: the named properties of the primitives.
Main exports: Storage.Within, CopiedOver, writeFileAtomic_backup_within,
  CommitMoment, locked_moments, killed_runs_open, rekey_retires_backup
-/
import DuckPass.System.Crashes

namespace DuckPass

open Storage (Untouched)

/-! ## Properties of all recorded moments -/

/-- Every state that the directory went through on the way has the property. -/
structure Storage.Within (property : Files → Prop)
    (before after : Storage) : Prop where
  now : property after.files
  during : ∃ recorded, after.history = recorded ++ before.history ∧
    ∀ files ∈ recorded, property files

namespace Storage.Within

variable {property : Files → Prop} {first middle last storage : Storage}

theorem refl (holds : property storage.files) :
    Within property storage storage :=
  ⟨holds, [], rfl, by simp⟩

theorem trans (one : Within property first middle)
    (two : Within property middle last) : Within property first last := by
  obtain ⟨earlier, earlierEq, earlierHolds⟩ := one.during
  obtain ⟨later, laterEq, laterHolds⟩ := two.during
  refine ⟨two.now, later ++ earlier, ?_, ?_⟩
  · rw [laterEq, earlierEq, List.append_assoc]
  · intro files member
    rcases List.mem_append.mp member with inLater | inEarlier
    · exact laterHolds files inLater
    · exact earlierHolds files inEarlier

theorem advance {files : Files} (holds : property storage.files)
    (now : property files) :
    Within property storage (storage.advance files) :=
  ⟨now, [storage.files], rfl, by simpa using holds⟩

theorem moments {files : Files}
    (within : Within property (.start files) storage) :
    ∀ moment ∈ storage.moments, property moment := by
  obtain ⟨recorded, historyEq, holds⟩ := within.during
  intro moment member
  rw [Storage.moments, historyEq] at member
  rcases List.mem_cons.mp member with rfl | past
  · exact within.now
  · rcases List.mem_append.mp past with inRecorded | impossible
    · exact holds moment inRecorded
    · cases impossible

end Storage.Within

open Storage (Within)

/-- A file that is not touched keeps what it has. -/
theorem Storage.Untouched.within {path : Path} {before after : Storage}
    (untouched : Untouched path before after)
    (holds : Option SecureBytes → Prop)
    (now : holds (before.files path)) :
    Within (fun files => holds (files path)) before after := by
  obtain ⟨recorded, historyEq, same⟩ := untouched.during
  refine ⟨untouched.now ▸ now, recorded, historyEq, ?_⟩
  intro files member
  rw [same files member]
  exact now

/-! ## The backup copy -/

/-- What a file may hold while a copy of another is made over it: what it held
before, or as much of the other as has been copied. -/
def CopiedOver (source old now : Option SecureBytes) : Prop :=
  now = old ∨ ∃ content copy, source = some content ∧ now = some copy ∧
    copy <+: content

theorem CopiedOver.kept (source old : Option SecureBytes) :
    CopiedOver source old old := .inl rfl

theorem append_present {path : Path} {written : SecureBytes}
    {storage : Storage} (present : storage.files path = some written)
    (chunk : SecureBytes) :
    (storage.append path chunk).files path = some (written ++ chunk) := by
  simp [Storage.append, Storage.write, Storage.advance, present]

/-- Writing on in a file goes through the beginnings of what is to be in it. -/
theorem writeAll_within {path : Path} (replies : List IoReply)
    (remaining : SecureBytes) {written content : SecureBytes}
    {storage : Storage} (present : storage.files path = some written)
    (whole : written ++ remaining = content) :
    Within (fun files => ∃ copy, files path = some copy ∧ copy <+: content)
      storage (writeAll replies path remaining storage).2 := by
  induction replies generalizing remaining written storage with
  | nil =>
      have begun := whole ▸ List.prefix_append written remaining
      unfold writeAll
      split
      · exact .refl ⟨written, present, begun⟩
      · exact .advance ⟨written, present, begun⟩
          ⟨_, append_present present remaining, whole ▸ List.prefix_rfl⟩
  | cons reply replies inductionHypothesis =>
      have begun := whole ▸ List.prefix_append written remaining
      unfold writeAll
      split
      · exact .refl ⟨written, present, begun⟩
      · cases reply with
        | interrupted => exact inductionHypothesis remaining present whole
        | failed errno => exact .refl ⟨written, present, begun⟩
        | transferred count =>
            have rest : written ++ remaining.take count ++
                remaining.drop count = content := by
              rw [List.append_assoc, List.take_append_drop, whole]
            have next := append_present present (remaining.take count)
            exact .trans
              (.advance ⟨written, present, begun⟩
                ⟨_, next, rest ▸ List.prefix_append _ _⟩)
              (inductionHypothesis (remaining.drop count) next rest)

/-- `copy_file` over the backup. -/
theorem copyFile_within (faults : WriteFaults) (path : Path)
    (storage : Storage) :
    Within (fun files => CopiedOver (storage.files path)
        (storage.files path.backup) (files path.backup))
      storage (copyFile faults path path.backup storage) := by
  unfold copyFile
  split
  · next content _ source =>
      have truncated : (storage.write path.backup []).files path.backup =
        some [] := Function.update_self _ _ _
      have copying := writeAll_within faults.copyWrites content truncated
        (List.nil_append content)
      have copied : Within (fun files => CopiedOver (some content)
          (storage.files path.backup) (files path.backup))
          (storage.write path.backup [])
          (writeAll faults.copyWrites path.backup content
            (storage.write path.backup [])).2 := by
        obtain ⟨now, recorded, historyEq, during⟩ := copying
        refine ⟨.inr ⟨content, ?_⟩, recorded, historyEq, fun files member =>
          .inr ⟨content, ?_⟩⟩
        · obtain ⟨copy, present, begins⟩ := now
          exact ⟨copy, rfl, present, begins⟩
        · obtain ⟨copy, present, begins⟩ := during files member
          exact ⟨copy, rfl, present, begins⟩
      rw [source]
      exact .trans (.advance (.kept _ _)
        (.inr ⟨content, [], rfl, truncated, List.nil_prefix⟩)) copied
  · exact .refl (.kept _ _)

theorem backupTarget_within (faults : WriteFaults) (path : Path)
    (createBackup : Bool) (storage : Storage) :
    Within (fun files => CopiedOver (storage.files path)
        (storage.files path.backup) (files path.backup))
      storage (backupTarget faults path createBackup storage).2 := by
  unfold backupTarget
  split
  · cases faults.existsErrno with
    | some errno => exact .refl (.kept _ _)
    | none =>
        dsimp only
        split
        · exact copyFile_within faults path storage
        · exact .refl (.kept _ _)
  · exact .refl (.kept _ _)

/-- At every moment of `write_file_atomic` with a backup, the backup file holds
what it held or the beginning of what the target held. -/
theorem writeFileAtomic_backup_within (faults : WriteFaults) (path : Path)
    (data : SecureBytes) (storage : Storage) :
    Within (fun files => CopiedOver (storage.files path)
        (storage.files path.backup) (files path.backup))
      storage (writeFileAtomic faults path data true storage).2 := by
  have notTmp := path.ne_temporary faults.unique
  have backupNotTmp := path.backup_ne_temporary faults.unique
  unfold writeFileAtomic
  generalize path.temporary faults.unique = tmpPath at notTmp backupNotTmp ⊢
  have kept := CopiedOver.kept (storage.files path)
    (storage.files path.backup)
  have target : Untouched path storage
      (writeAndSync faults tmpPath data (storage.write tmpPath [])).2 :=
    (Untouched.write notTmp).trans (writeAndSync_untouched notTmp faults data _)
  have written : Untouched path.backup storage
      (writeAndSync faults tmpPath data (storage.write tmpPath [])).2 :=
    (Untouched.write backupNotTmp).trans
      (writeAndSync_untouched backupNotTmp faults data _)
  rcases writeThrough_cases faults path tmpPath data true storage with
    ⟨error, outcome⟩ | ⟨error, synced, failed, outcome⟩ |
      ⟨synced, finished, outcome⟩
  · rw [outcome]
    exact (releaseTempFile_untouched backupNotTmp faults storage).within
      (CopiedOver _ _) kept
  · rw [failed] at written
    rw [outcome]
    exact (written.trans
      (releaseTempFile_untouched backupNotTmp faults synced)).within
        (CopiedOver _ _) kept
  · rw [finished] at written target
    rw [outcome]
    have copied := backupTarget_within faults path true synced
    rw [target.now, written.now] at copied
    refine .trans (written.within (CopiedOver _ _) kept) ?_
    rcases backupAndRename_cases faults path tmpPath true synced with
      ⟨error, renamed⟩ | ⟨_, renamed⟩
    · rw [renamed]
      exact copied.trans
        ((releaseTempFile_untouched backupNotTmp faults _).within
          (CopiedOver _ _) copied.now)
    · rw [renamed]
      exact copied.trans
        ((Untouched.rename backupNotTmp path.ne_backup.symm).within
          (CopiedOver _ _) copied.now)

/-! ## The moments of a commit -/

/-- What the vault file and its backup can hold at a moment of the work under
the lock: what they held before the merge succeeded; then the vault file is
what it was or the complete new one, and the backup is what it was, as much as
has been copied of the old vault file, or after a `rekey` the new one too. -/
inductive CommitMoment (primitives : Primitives) (path : Path)
    (request : Request) (clock : Clock) (self : VaultService) (files : Files) :
    Files → Prop where
  | untouched {moment : Files} (vaultFile : moment path = files path)
      (backupFile : moment path.backup = files path.backup) :
      CommitMoment primitives path request clock self files moment
  | writing {moment : Files} {merged : Vault} {blob : SecureBytes}
      (merges : MergesTo primitives self (files path) clock merged)
      (encrypted : SealedBlob primitives
        (request.nextPassword self.masterPassword) merged blob)
      (vaultFile : moment path = files path ∨ moment path = some blob)
      (backupFile : CopiedOver (files path) (files path.backup)
          (moment path.backup) ∨
        ∃ newMasterPassword, request = .rekey newMasterPassword ∧
          moment path.backup = some blob) :
      CommitMoment primitives path request clock self files moment

section Moments

variable {primitives : Primitives} {path : Path} {request : Request}
  {env : CommitEnv} {clock : Clock} {self : VaultService} {files : Files}

/-- At every moment since the call began the file holds its old content or the
data. -/
theorem Replaced.within {target : Path} {data : SecureBytes}
    {before after : Storage} {result : Except DuckpassError Unit}
    (replaced : Replaced target data before result after) :
    Within (fun moment => moment target = before.files target ∨
      moment target = some data) before after := by
  cases replaced with
  | threw untouched =>
      exact untouched.within (fun content =>
        content = before.files target ∨ content = some data) (.inl rfl)
  | returned untouched content =>
      have unchanged := untouched.within (fun content =>
        content = before.files target ∨ content = some data) (.inl rfl)
      exact unchanged.trans (.advance unchanged.now (.inr content))

/-- While neither file is touched. -/
theorem moments_of_untouched {storage : Storage}
    (vaultFile : Untouched path (.start files) storage)
    (backupFile : Untouched path.backup (.start files) storage) :
    ∀ moment ∈ storage.moments,
      CommitMoment primitives path request clock self files moment :=
  fun moment member => .untouched (vaultFile.moments moment member)
    (backupFile.moments moment member)

/-- `save` once the merge has succeeded. -/
theorem commit_moments {merged : Vault} {storage : Storage}
    (onPath : self.vaultPath = path)
    (ordinary :
      request.nextPassword self.masterPassword = self.masterPassword)
    (merges : MergesTo primitives self (files path) clock merged)
    (vaultFile : Untouched path (.start files) storage)
    (backupFile : Untouched path.backup (.start files) storage) :
    ∀ moment ∈ (VaultService.commitVaultWithLockHeld primitives env
        self.masterPassword { self with vault := merged }
        storage).storage.moments,
      CommitMoment primitives path request clock self files moment := by
  subst onPath
  unfold VaultService.commitVaultWithLockHeld saveVault
  cases encrypted : serializeAndEncryptVault primitives env.encrypt merged
      self.masterPassword with
  | error error => exact moments_of_untouched vaultFile backupFile
  | ok blob =>
      have target := (Replaced.after vaultFile (writeFileAtomic_target
        env.vaultWrite self.vaultPath blob true storage)).within.moments
      have copied := writeFileAtomic_backup_within env.vaultWrite
        self.vaultPath blob storage
      rw [vaultFile.now, backupFile.now] at copied
      have kept : CopiedOver (files self.vaultPath)
          (files self.vaultPath.backup) (files self.vaultPath.backup) :=
        .kept _ _
      have copies : ∀ moment ∈ (writeFileAtomic env.vaultWrite self.vaultPath
          blob true storage).2.moments, CopiedOver (files self.vaultPath)
            (files self.vaultPath.backup) (moment self.vaultPath.backup) :=
        ((backupFile.within (CopiedOver _ _) kept).trans copied).moments
      have sealedBlob := ordinary.symm ▸
        serializeAndEncryptVault_eq_ok encrypted
      have all : ∀ moment ∈ (writeFileAtomic env.vaultWrite self.vaultPath
          blob true storage).2.moments,
            CommitMoment primitives self.vaultPath request clock self files
              moment :=
        fun moment member => .writing merges sealedBlob (target moment member)
          (.inl (copies moment member))
      revert all
      dsimp only
      cases writeFileAtomic env.vaultWrite self.vaultPath blob true storage with
      | mk result after =>
          cases result with
          | error error => exact id
          | ok done => exact id

/-- Steps 2 to 5 of `rekey`: the backup takes the new content before the vault
file does. -/
theorem rekey_moments {newMasterPassword : SecureString} {merged : Vault}
    {storage : Storage} (onPath : self.vaultPath = path)
    (merges : MergesTo primitives self (files path) clock merged)
    (vaultFile : Untouched path (.start files) storage)
    (backupFile : Untouched path.backup (.start files) storage) :
    ∀ moment ∈ (VaultService.rekeyWithLockHeld primitives env newMasterPassword
        { self with vault := merged } storage).storage.moments,
      CommitMoment primitives path (.rekey newMasterPassword) clock self files
        moment := by
  subst onPath
  unfold VaultService.rekeyWithLockHeld
  cases encrypted : serializeAndEncryptVault primitives env.encrypt merged
      newMasterPassword with
  | error error => exact moments_of_untouched vaultFile backupFile
  | ok blob =>
      have sealedBlob := serializeAndEncryptVault_eq_ok encrypted
      have written {moment : Files}
          (target : moment self.vaultPath = files self.vaultPath ∨
            moment self.vaultPath = some blob)
          (backup : moment self.vaultPath.backup =
              files self.vaultPath.backup ∨
            moment self.vaultPath.backup = some blob) :
          CommitMoment primitives self.vaultPath (.rekey newMasterPassword)
            clock self files moment :=
        .writing merges sealedBlob target
          (backup.imp .inl fun new => ⟨newMasterPassword, rfl, new⟩)
      have backup := (Replaced.after backupFile (writeFileAtomic_target
        env.backupWrite self.vaultPath.backup blob false storage)).within
      have spared := vaultFile.trans (writeFileAtomic_untouched env.backupWrite
        false self.vaultPath.ne_backup
        (self.vaultPath.ne_backup_temporary env.backupWrite.unique)
        (by simp) blob storage)
      dsimp only
      cases backedUp : writeFileAtomic env.backupWrite self.vaultPath.backup
          blob false storage with
      | mk result middle =>
          rw [backedUp] at backup spared
          cases result with
          | error error =>
              exact fun moment member =>
                written (.inl (spared.moments moment member))
                  (backup.moments moment member)
          | ok done =>
              have target := (Replaced.after spared (writeFileAtomic_target
                env.vaultWrite self.vaultPath blob false middle)).within
              have kept := writeFileAtomic_untouched env.vaultWrite false
                self.vaultPath.ne_backup.symm
                (self.vaultPath.backup_ne_temporary env.vaultWrite.unique)
                (by simp) blob middle
              have both := backup.trans (kept.within (fun content =>
                content = files self.vaultPath.backup ∨ content = some blob)
                backup.now)
              have all := fun moment member =>
                written (target.moments moment member)
                  (both.moments moment member)
              revert all
              dsimp only
              cases writeFileAtomic env.vaultWrite self.vaultPath blob false
                  middle with
              | mk result after =>
                  cases result with
                  | error error => exact id
                  | ok done =>
                      dsimp only
                      cases env.protect with
                      | none => exact id
                      | some error => exact id

/-- Up to `finish` neither the vault file nor its backup is touched. -/
theorem underLock_moments {finish : VaultService → Storage → Outcome}
    (onPath : self.vaultPath = path)
    (finishes : ∀ merged storage,
      MergesTo primitives self (files path) clock merged →
      Untouched path (.start files) storage →
      Untouched path.backup (.start files) storage →
      ∀ moment ∈ (finish { self with vault := merged } storage).storage.moments,
        CommitMoment primitives path request clock self files moment) :
    ∀ moment ∈ (self.underLock primitives env clock finish
        (.start files)).storage.moments,
      CommitMoment primitives path request clock self files moment := by
  subst onPath
  unfold VaultService.underLock
  cases acquired : acquireFileLock env.lock self.vaultPath (.start files) with
  | mk result storage =>
      obtain ⟨vaultFile, backupFile⟩ := acquireFileLock_frames acquired
      cases result with
      | error error => exact moments_of_untouched vaultFile backupFile
      | ok done =>
          dsimp only
          cases merge : self.mergeDiskStateWithLockHeld primitives env.load
              storage.files clock with
          | error error => exact moments_of_untouched vaultFile backupFile
          | ok after =>
              obtain ⟨merged, merges, rfl⟩ :=
                mergeDiskStateWithLockHeld_eq_ok merge
              rw [vaultFile.now] at merges
              exact finishes merged storage merges vaultFile backupFile

/-- Every state of the directory during the half of a call under the lock. -/
theorem locked_moments (primitives : Primitives) (request : Request)
    (env : CommitEnv) (clock : Clock) (files : Files)
    (onPath : self.vaultPath = path) :
    ∀ moment ∈ (request.locked primitives env clock self
        (.start files)).storage.moments,
      CommitMoment primitives path request clock self files moment := by
  have ordinary (samePassword :
        request.nextPassword self.masterPassword = self.masterPassword) :
      ∀ moment ∈ (self.save primitives env clock
          (.start files)).storage.moments,
        CommitMoment primitives path request clock self files moment := by
    rw [save_eq]
    exact underLock_moments onPath fun _ _ =>
      commit_moments onPath samePassword
  cases request with
  | addEntry => exact ordinary rfl
  | updateEntry => exact ordinary rfl
  | deleteEntry => exact ordinary rfl
  | save => exact ordinary rfl
  | rekey newMasterPassword =>
      change ∀ moment ∈ (self.rekeyLocked primitives env clock
        newMasterPassword (.start files)).storage.moments, _
      rw [rekeyLocked_eq]
      exact underLock_moments onPath fun _ _ => rekey_moments onPath

end Moments

/-! ## Runs with kills -/

section Runs

variable {path : Path} {primitives : Primitives}
  {system next last : System path} {event : CrashEvent}
  {events : List CrashEvent} {reply : Reply} {replies : List Reply}

/-- What becomes of the files in one step. -/
theorem crashStep_moment
    (stepped : system.crashStep primitives event = some (next, reply)) :
    next.files = system.files ∨
      ∃ id session request clock,
        system.WorksUnderLock id session request event ∧
        CommitMoment primitives path request clock session.service system.files
          next.files := by
  rcases crashStep_files stepped with
    same | ⟨id, session, request, env, clock, works, member⟩
  · exact .inl same
  · exact .inr ⟨id, session, request, clock, works,
      locked_moments primitives request env clock system.files session.onPath
        _ member⟩

/-- What the password that opens the vault file can be at a moment of the work
under the lock. -/
theorem CommitMoment.password {request : Request} {clock : Clock}
    {self : VaultService} {files moment : Files} {password : SecureString}
    (ideal : primitives.Ideal)
    (during : CommitMoment primitives path request clock self files moment)
    (opens : OpensWith primitives (files path) password) :
    OpensWith primitives (moment path) password ∨
      ∃ newPassword, request = .rekey newPassword ∧
        self.masterPassword = password ∧
        OpensWith primitives (moment path) newPassword := by
  cases during with
  | untouched vaultFile => exact .inl (vaultFile ▸ opens)
  | writing merges encrypted vaultFile =>
      rcases vaultFile with same | new
      · exact .inl (same ▸ opens)
      · obtain ⟨_, _, _, present, _⟩ := id opens
        have held := (merges.opensWith present).unique ideal opens
        have newOpens := encrypted.opensWith ideal.toRoundTrips
        rw [← new] at newOpens
        cases request with
        | rekey newPassword => exact .inr ⟨newPassword, rfl, held, newOpens⟩
        | addEntry => exact .inl (held ▸ newOpens)
        | updateEntry => exact .inl (held ▸ newOpens)
        | deleteEntry => exact .inl (held ▸ newOpens)
        | save => exact .inl (held ▸ newOpens)

/-- An instance that has the password of the vault file works on a `rekey`. -/
def Rekeying (primitives : Primitives) (system : System path)
    (newPassword : SecureString) (event : CrashEvent) : Prop :=
  ∃ id session, system.WorksUnderLock id session (.rekey newPassword) event ∧
    OpensWith primitives (system.files path) session.service.masterPassword

theorem crashStep_password (ideal : primitives.Ideal)
    {password : SecureString}
    (opens : OpensWith primitives (system.files path) password)
    (stepped : system.crashStep primitives event = some (next, reply)) :
    ∃ now, OpensWith primitives (next.files path) now ∧
      (now = password ∨ Rekeying primitives system now event) := by
  rcases crashStep_moment stepped with
    same | ⟨id, session, request, clock, works, during⟩
  · exact ⟨password, same ▸ opens, .inl rfl⟩
  · rcases during.password ideal opens with
      same | ⟨newPassword, rfl, rfl, newOpens⟩
    · exact ⟨password, same, .inl rfl⟩
    · exact ⟨newPassword, newOpens, .inr ⟨id, session, works, opens⟩⟩

/-- Wherever processes were killed, the vault file opens, with the password
that it opened with or with one to which an instance that had the password of
the day was to change it. -/
theorem killed_runs_open (ideal : primitives.Ideal) {password : SecureString}
    (opens : OpensWith primitives (system.files path) password)
    (finished : Run.run (System.crashStep primitives) system events =
      some (last, replies)) :
    ∃ now, OpensWith primitives (last.files path) now ∧
      (now = password ∨
        ∃ before event after middle answers, events = before ++ event :: after ∧
          Run.run (System.crashStep primitives) system before =
            some (middle, answers) ∧
          Rekeying primitives middle now event) := by
  induction events generalizing system password replies with
  | nil =>
      cases finished
      exact ⟨password, opens, .inl rfl⟩
  | cons event events inductionHypothesis =>
      obtain ⟨next, reply, later, stepped, rest, _⟩ := Run.run_cons finished
      obtain ⟨first, firstOpens, firstFrom⟩ :=
        crashStep_password ideal opens stepped
      obtain ⟨now, nowOpens, nowFrom⟩ := inductionHypothesis firstOpens rest
      refine ⟨now, nowOpens, ?_⟩
      rcases nowFrom with
        rfl | ⟨before, other, after, middle, answers, rfl, ran, rekeying⟩
      · rcases firstFrom with same | rekeying
        · exact .inl same
        · exact .inr ⟨[], event, events, system, [], rfl, rfl, rekeying⟩
      · exact .inr ⟨event :: before, other, after, middle, _, rfl,
          Run.run_of_step stepped ran, rekeying⟩

end Runs

namespace BackupHistory

open Symbolic (calm masterPassword onEmptyVault)

/-- A `rekey` that is killed between its two files. -/
def killedRekey : List CrashEvent :=
  [.step (.construct 0 masterPassword .none (.constant 5)),
    .step (.call 0 (.rekey [0x6E]) (.constant 6)),
    .killed 0 calm (.constant 6) 1]

end BackupHistory

theorem killed_runs_open_killedRekey :
    ∃ now, OpensWith Symbolic.primitives
      ((Run.reached (System.crashStep Symbolic.primitives)
        Symbolic.onEmptyVault BackupHistory.killedRekey).files Symbolic.path)
        now := by
  have opens : OpensWith Symbolic.primitives
      (Symbolic.onEmptyVault.files Symbolic.path) Symbolic.masterPassword :=
    Symbolic.opensWith_of_entriesOnDisk (.constant 5) [] (by decide +kernel)
  have finished := @Run.run_reached _ _ _
    (System.crashStep Symbolic.primitives) Symbolic.onEmptyVault
    BackupHistory.killedRekey [.constructed, .waiting, .destroyed]
    (by decide +kernel)
  obtain ⟨now, nowOpens, _⟩ := killed_runs_open Symbolic.ideal opens finished
  exact ⟨now, nowOpens⟩

/-! ## After a `rekey` -/

section Runs

variable {path : Path} {primitives : Primitives}
  {system next last : System path} {event : CrashEvent}
  {events : List CrashEvent} {reply : Reply} {replies : List Reply}

/-- The master password that the call is to set. -/
def Request.newPassword : Request → Option SecureString
  | rekey newMasterPassword => some newMasterPassword
  | _ => none

/-- The vault file is sealed with the password, and the backup is, or is the
beginning of something that is. -/
structure SealedUnder (primitives : Primitives) (path : Path)
    (password : SecureString) (files : Files) : Prop where
  vaultFile : ∃ vault blob, files path = some blob ∧
    SealedBlob primitives password vault blob
  backupFile : ∃ copy vault blob, files path.backup = some copy ∧
    SealedBlob primitives password vault blob ∧ copy <+: blob

/-- Nobody works on a `rekey`. -/
def NoRekey (system : System path) (event : CrashEvent) : Prop :=
  ∀ request ∈ system.underLock event, request.newPassword = none

instance (system : System path) (event : CrashEvent) :
    Decidable (NoRekey system event) :=
  inferInstanceAs (Decidable (∀ request ∈ system.underLock event,
    request.newPassword = none))

namespace SealedUnder

variable {password : SecureString} {files moment : Files}

theorem opensWith (ideal : primitives.Ideal)
    (under : SealedUnder primitives path password files) :
    OpensWith primitives (files path) password := by
  obtain ⟨vault, blob, present, encrypted⟩ := under.vaultFile
  rw [present]
  exact encrypted.opensWith ideal.toRoundTrips

theorem stays (ideal : primitives.Ideal) {request : Request} {clock : Clock}
    {self : VaultService}
    (ordinary : ∀ newPassword, request ≠ .rekey newPassword)
    (under : SealedUnder primitives path password files)
    (during : CommitMoment primitives path request clock self files moment) :
    SealedUnder primitives path password moment := by
  have opens := under.opensWith ideal
  obtain ⟨vault, blob, present, encrypted⟩ := under.vaultFile
  obtain ⟨copy, old, source, backedUp, sealedOld, begins⟩ := under.backupFile
  cases during with
  | untouched vaultFile backupFile =>
      exact ⟨⟨vault, blob, vaultFile.trans present, encrypted⟩,
        ⟨copy, old, source, backupFile.trans backedUp, sealedOld, begins⟩⟩
  | writing merges sealedNew vaultFile backupFile =>
      have held := (merges.opensWith present).unique ideal opens
      have same : request.nextPassword self.masterPassword = password := by
        cases request with
        | rekey newPassword => exact absurd rfl (ordinary newPassword)
        | addEntry => exact held
        | updateEntry => exact held
        | deleteEntry => exact held
        | save => exact held
      rw [same] at sealedNew
      constructor
      · rcases vaultFile with kept | new
        · exact ⟨vault, blob, kept.trans present, encrypted⟩
        · exact ⟨_, _, new, sealedNew⟩
      · rcases backupFile with copied | ⟨newPassword, rekeys, _⟩
        · rcases copied with kept | ⟨content, part, here, now, begun⟩
          · exact ⟨copy, old, source, kept.trans backedUp, sealedOld, begins⟩
          · rw [present] at here
            cases here
            exact ⟨part, vault, blob, now, encrypted, begun⟩
        · exact absurd rekeys (ordinary newPassword)

theorem step (ideal : primitives.Ideal)
    (under : SealedUnder primitives path password system.files)
    (ordinary : NoRekey system event)
    (stepped : system.crashStep primitives event = some (next, reply)) :
    SealedUnder primitives path password next.files := by
  rcases crashStep_moment stepped with
    same | ⟨id, session, request, clock, works, during⟩
  · exact same ▸ under
  · refine under.stays ideal ?_ during
    rintro newPassword rfl
    cases ordinary _ (System.underLock_of_works works)

end SealedUnder

/-- A `rekey` that has returned. -/
theorem sealedUnder_of_rekey {changed : System path} {id : Nat}
    {env : CommitEnv} {clock : Clock} {session : Session path}
    {newPassword : SecureString} (present : system.sessions id = some session)
    (pending : session.pending = some (.rekey newPassword))
    (rekeyed : system.step primitives (.commit id env clock) =
      some (changed, .returned)) :
    SealedUnder primitives path newPassword changed.files := by
  have ended := locked_cases primitives (.rekey newPassword) env clock
    session.service system.files
  simp only [System.step, System.commit, present] at rekeyed
  split at rekeyed
  · next idle =>
      rw [pending] at idle
      cases idle
  · next request found =>
      rw [pending] at found
      cases found
      simp only [Option.some.injEq, Prod.mk.injEq] at rekeyed
      obtain ⟨rfl, returned⟩ := rekeyed
      have onPath := session.onPath
      rw [System.put_files]
      revert ended returned
      generalize Request.locked primitives (.rekey newPassword) env clock
        session.service (.start system.files) = outcome
      intro ended returned
      cases ended with
      | refused => cases returned
      | failed => cases returned
      | unkept => cases returned
      | returned merges encrypted replaced backupFile =>
          have backup := backupFile newPassword rfl
          rw [onPath] at replaced backup
          cases replaced with
          | returned _ content =>
              exact ⟨⟨_, _, content, encrypted⟩,
                ⟨_, _, _, backup, encrypted, List.prefix_rfl⟩⟩

/-- After a `rekey` that has returned, in every run in which nobody works on
another one, whichever instances still hold older passwords and wherever
processes are killed: the vault file opens with the new password and no other,
and so does the backup, unless it is the beginning of a copy of a vault file
that was sealed with the new password. -/
theorem rekey_retires_backup (ideal : primitives.Ideal)
    {changed : System path} {id : Nat} {env : CommitEnv} {clock : Clock}
    {session : Session path} {newPassword : SecureString}
    (present : system.sessions id = some session)
    (pending : session.pending = some (.rekey newPassword))
    (rekeyed : system.step primitives (.commit id env clock) =
      some (changed, .returned))
    (ordinary : Run.Along (System.crashStep primitives) NoRekey changed events)
    (finished : Run.run (System.crashStep primitives) changed events =
      some (last, replies)) :
    (∀ password, OpensWith primitives (last.files path) password ↔
      password = newPassword) ∧
    ∃ copy vault blob, last.files path.backup = some copy ∧
      SealedBlob primitives newPassword vault blob ∧ copy <+: blob ∧
      (copy = blob → ∀ password,
        OpensWith primitives (last.files path.backup) password ↔
          password = newPassword) := by
  have under : SealedUnder primitives path newPassword last.files :=
    @Run.invariant _ _ _ (System.crashStep primitives)
      (fun system => SealedUnder primitives path newPassword system.files)
      NoRekey (fun under ordinary stepped => under.step ideal ordinary stepped)
      _ _ _ _ (sealedUnder_of_rekey present pending rekeyed) ordinary finished
  obtain ⟨copy, vault, blob, backedUp, encrypted, begins⟩ := under.backupFile
  refine ⟨fun password => ⟨fun opens => opens.unique ideal
    (under.opensWith ideal), ?_⟩, copy, vault, blob, backedUp, encrypted,
    begins, ?_⟩
  · rintro rfl
    exact under.opensWith ideal
  · rintro rfl password
    have opens := encrypted.opensWith ideal.toRoundTrips
    rw [backedUp]
    constructor
    · exact fun other => other.unique ideal opens
    · rintro rfl
      exact opens

end Runs

namespace BackupHistory

open Symbolic (calm masterPassword onEmptyVault)

/-- One of two instances changes the master password. -/
def beforeRekey : System Symbolic.path :=
  Symbolic.reached onEmptyVault
    [.construct 0 masterPassword .none (.constant 5),
      .construct 1 masterPassword .none (.constant 5),
      .call 0 (.rekey [0x6E]) (.constant 6)]

def afterRekey : System Symbolic.path :=
  Symbolic.reached beforeRekey [.commit 0 calm (.constant 6)]

/-- The other one, which does not know, tries to add an entry; the first is
killed in an `add` when it has emptied the backup. -/
def interrupted : List CrashEvent :=
  [.step (.call 1 (.addEntry Symbolic.service [1] [2] []) (.constant 7)),
    .step (.commit 1 calm (.constant 7)),
    .step (.call 0 (.addEntry Symbolic.service [1] [3] []) (.constant 8)),
    .killed 0 calm (.constant 8) 2]

end BackupHistory

/-- The `add` of the instance that does not know was refused, and the kill left
the vault file under the new password. -/
theorem rekey_retires_backup_interrupted :
    OpensWith Symbolic.primitives
      ((Run.reached (System.crashStep Symbolic.primitives)
        BackupHistory.afterRekey BackupHistory.interrupted).files
          Symbolic.path) [0x6E] := by
  have finished := @Run.run_reached _ _ _
    (System.crashStep Symbolic.primitives) BackupHistory.afterRekey
    BackupHistory.interrupted
    [.waiting, .threw .wrongPassword, .waiting, .destroyed] (by decide +kernel)
  have rekeyed := Symbolic.step_reached BackupHistory.beforeRekey
    (.commit 0 Symbolic.calm (.constant 6)) .returned (by decide +kernel)
  have waits : ((BackupHistory.beforeRekey.sessions 0).bind
      Session.pending) = some (.rekey [0x6E]) := by
    decide +kernel
  obtain ⟨session, present, pending⟩ := Option.bind_eq_some_iff.mp waits
  have opens := (rekey_retires_backup Symbolic.ideal present pending rekeyed
    (by decide +kernel) finished).1
  exact (opens _).mpr rfl

end DuckPass
