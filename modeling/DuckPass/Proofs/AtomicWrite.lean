/-
Module: DuckPass.Proofs.AtomicWrite
Purpose: `write_file_atomic` is all or nothing at every moment: the target, the
  temporary file and the backup, however the calls under it go and wherever the
  process is cut off.
Trusted boundary: rename replaces the target in one step.
Main exports: AllOrNothing, CopySucceeds, writeFileAtomic_temporary,
  writeFileAtomic_backup, write_file_atomic_all_or_nothing
-/
import DuckPass.Proofs.LocalStorage

namespace DuckPass

open Storage (Untouched)

/-! ## Statement -/

/-- The copy of `content` to the backup goes through: it can be opened and
every write into it succeeds in the end. -/
def CopySucceeds (faults : WriteFaults) (path : Path)
    (content : SecureBytes) : Prop :=
  faults.copyErrno = none ∧
    (writeAll faults.copyWrites path.backup content
      (Storage.start fun _ => none)).1 = .ok ()

/-- The guarantee of one call.  A crash leaves one of the directory states that
the call went through, the last one included. -/
structure AllOrNothing (faults : WriteFaults) (path : Path)
    (data : SecureBytes) (createBackup : Bool) (before after : Storage)
    (result : Except DuckpassError Unit) : Prop where
  moments : ∃ during, after.history = during ++ before.history ∧
    ∀ files ∈ after.files :: during,
      files path = before.files path ∨ files path = some data
  threw : result ≠ .ok () → after.files path = before.files path
  returned : result = .ok () → after.files path = some data
  noTemporary : after.files (path.temporary faults.unique) = none
  backup : result = .ok () → createBackup = true →
    ∀ old, before.files path = some old → CopySucceeds faults path old →
      after.files
        { path with filename := path.filename ++ ['.', 'b', 'a', 'k'] } =
        some old

/-! ## The temporary file -/

theorem releaseTempFile_gone {faults : WriteFaults}
    (removable : faults.removeFails = false) (tmpPath : Path)
    (storage : Storage) :
    (releaseTempFile faults tmpPath storage).files tmpPath = none := by
  rw [releaseTempFile, removable]
  exact Function.update_self _ _ _

/-- Whichever way the call ends, its temporary file has been removed or has
become the target. -/
theorem writeFileAtomic_temporary {faults : WriteFaults}
    (removable : faults.removeFails = false) (path : Path)
    (data : SecureBytes) (createBackup : Bool) (storage : Storage) :
    (writeFileAtomic faults path data createBackup storage).2.files
      (path.temporary faults.unique) = none := by
  unfold writeFileAtomic
  generalize path.temporary faults.unique = tmpPath
  rcases writeThrough_cases faults path tmpPath data createBackup storage with
    ⟨error, outcome⟩ | ⟨error, synced, _, outcome⟩ | ⟨synced, _, outcome⟩
  · rw [outcome]
    exact releaseTempFile_gone removable tmpPath storage
  · rw [outcome]
    exact releaseTempFile_gone removable tmpPath synced
  · rw [outcome]
    rcases backupAndRename_cases faults path tmpPath createBackup synced with
      ⟨error, failed⟩ | ⟨_, renamed⟩
    · rw [failed]
      exact releaseTempFile_gone removable tmpPath _
    · rw [renamed]
      exact Function.update_self _ _ _

/-! ## The backup -/

/-- How a write loop ends does not depend on the file it writes to. -/
theorem writeAll_result (replies : List IoReply) (remaining : SecureBytes)
    (path other : Path) (storage otherStorage : Storage) :
    (writeAll replies path remaining storage).1 =
      (writeAll replies other remaining otherStorage).1 := by
  induction replies generalizing remaining storage otherStorage with
  | nil =>
      unfold writeAll
      split <;> rfl
  | cons reply replies inductionHypothesis =>
      unfold writeAll
      split
      · rfl
      · cases reply with
        | interrupted => exact inductionHypothesis _ _ _
        | failed errno => rfl
        | transferred count => exact inductionHypothesis _ _ _

theorem copyFile_content {faults : WriteFaults} {path : Path}
    {content : SecureBytes} {storage : Storage}
    (succeeds : CopySucceeds faults path content)
    (present : storage.files path = some content) :
    (copyFile faults path path.backup storage).files path.backup =
      some content := by
  obtain ⟨opened, completes⟩ := succeeds
  have truncated : (storage.write path.backup []).files path.backup =
      some [] := Function.update_self _ _ _
  rw [copyFile, opened, present]
  exact writeAll_content faults.copyWrites content truncated
    ((writeAll_result _ _ _ _ _ _).trans completes)

/-- When the call returns, the backup that was asked for and could be made holds
what the target held before. -/
theorem writeFileAtomic_backup {faults : WriteFaults} {path : Path}
    {old : SecureBytes} {storage : Storage}
    (present : storage.files path = some old)
    (succeeds : CopySucceeds faults path old) (data : SecureBytes)
    (finished : (writeFileAtomic faults path data true storage).1 = .ok ()) :
    (writeFileAtomic faults path data true storage).2.files path.backup =
      some old := by
  have notTmp := path.ne_temporary faults.unique
  have backupNotTmp := path.backup_ne_temporary faults.unique
  unfold writeFileAtomic at finished ⊢
  generalize path.temporary faults.unique = tmpPath
    at notTmp backupNotTmp finished ⊢
  have written : Untouched path storage
      (writeAndSync faults tmpPath data (storage.write tmpPath [])).2 :=
    (Untouched.write notTmp).trans
      (writeAndSync_untouched notTmp faults data _)
  rcases writeThrough_cases faults path tmpPath data true storage with
    ⟨error, outcome⟩ | ⟨error, synced, _, outcome⟩ | ⟨synced, ended, outcome⟩
  · rw [outcome] at finished
    cases finished
  · rw [outcome] at finished
    cases finished
  · rw [ended] at written
    rw [outcome] at finished ⊢
    rcases backupAndRename_cases faults path tmpPath true synced with
      ⟨error, failed⟩ | ⟨copied, renamed⟩
    · rw [failed] at finished
      cases finished
    · -- The rename moves the temporary file and leaves the backup alone.
      have stillThere : synced.files path = some old :=
        written.now.trans present
      have afterCopy : (backupTarget faults path true synced).2.files
          path.backup = some old := by
        unfold backupTarget at copied ⊢
        cases asked : faults.existsErrno with
        | some errno =>
            rw [asked] at copied
            cases copied
        | none =>
            rw [stillThere]
            exact copyFile_content succeeds stillThere
      rw [renamed]
      exact (Untouched.rename backupNotTmp path.ne_backup.symm).now.trans
        afterCopy

/-! ## Main result -/

theorem Path.backup_eq (path : Path) :
    path.backup =
      { path with filename := path.filename ++ ['.', 'b', 'a', 'k'] } := by
  rw [← path.backup_filename]
  rfl

/-- Whatever the target held, whatever is written over it, in whichever pieces
and with whichever call failing: each directory state the call goes through has
the old target or the complete new one; an exception leaves the old one and a
return the new one, both without the temporary file; and a backup that could be
copied holds the old content. -/
theorem write_file_atomic_all_or_nothing {faults : WriteFaults}
    (removable : faults.removeFails = false) (path : Path)
    (data : SecureBytes) (createBackup : Bool) (storage : Storage) :
    AllOrNothing faults path data createBackup storage
      (writeFileAtomic faults path data createBackup storage).2
      (writeFileAtomic faults path data createBackup storage).1 := by
  have backup := fun old present succeeds =>
    @writeFileAtomic_backup faults path old storage present succeeds data
  have gone := writeFileAtomic_temporary removable path data createBackup
    storage
  have target := writeFileAtomic_target faults path data createBackup storage
  revert backup gone target
  cases callEq : writeFileAtomic faults path data createBackup storage with
  | mk result after =>
      intro backup gone target
      cases target with
      | threw untouched =>
          obtain ⟨during, recorded, same⟩ := untouched.during
          refine ⟨⟨during, recorded, ?_⟩, fun _ => untouched.now, ?_, gone, ?_⟩
          · intro files member
            rcases List.mem_cons.mp member with rfl | earlier
            · exact .inl untouched.now
            · exact .inl (same files earlier)
          · rintro ⟨⟩
          · rintro ⟨⟩
      | @returned middle files untouched content =>
          obtain ⟨during, recorded, same⟩ := untouched.during
          refine ⟨⟨middle.files :: during, congrArg _ recorded, ?_⟩, ?_,
            fun _ => content, gone, ?_⟩
          · intro moment member
            rcases List.mem_cons.mp member with rfl | earlier
            · exact .inr content
            · rcases List.mem_cons.mp earlier with rfl | earlier
              · exact .inl untouched.now
              · exact .inl (same moment earlier)
          · intro notReturned
            exact absurd rfl notReturned
          · rintro _ rfl old present succeeds
            have copied := backup old present succeeds (by rw [callEq])
            rw [callEq, path.backup_eq] at copied
            exact copied

namespace AtomicWrite

/-- Two of three bytes are written before a signal comes, and then the rest. -/
def shortWrites : WriteFaults :=
  { WriteFaults.none with
    writes := [.transferred 2, .interrupted]
    copyWrites := [.interrupted, .transferred 1] }

def target : Path := ⟨['.'], ['v']⟩

/-- A directory in which the target exists. -/
def before : Storage :=
  .start fun path => if path = target then some [7, 8] else none

end AtomicWrite

open AtomicWrite in
/-- Short writes into the file and into its backup. -/
theorem write_file_atomic_all_or_nothing_shortWrites :
    AllOrNothing shortWrites target [1, 2, 3] true before
      (writeFileAtomic shortWrites target [1, 2, 3] true before).2
      (writeFileAtomic shortWrites target [1, 2, 3] true before).1 :=
  write_file_atomic_all_or_nothing rfl target [1, 2, 3] true before

open AtomicWrite in
example : CopySucceeds shortWrites target [7, 8] := ⟨rfl, rfl⟩

end DuckPass
