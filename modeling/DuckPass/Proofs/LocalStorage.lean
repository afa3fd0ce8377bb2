/-
Module: DuckPass.Proofs.LocalStorage
Purpose: What the storage operations leave alone, at the end and at every
  recorded moment in between, and when `write_file_atomic` replaces its target.
Trusted boundary: none
Main exports: Storage.Untouched, writeFileAtomic_target,
  writeFileAtomic_untouched, acquireFileLock_untouched
-/
import DuckPass.Core.LocalStorage
import Mathlib.Data.List.Basic

namespace DuckPass

/-! ## File names -/

namespace Path

/-- A name with a dot splits at its last one. -/
private theorem split_lastDot {name : List Char}
    (long : (afterLastDot name).length < name.length) :
    ∃ stem, name = stem ++ '.' :: afterLastDot name := by
  have cut := List.takeWhile_append_dropWhile
    (p := fun letter => decide (letter ≠ '.')) (l := name.reverse)
  cases rest : name.reverse.dropWhile (fun letter => decide (letter ≠ '.')) with
  | nil =>
      -- Without a dot the suffix is the whole name.
      have whole : afterLastDot name = name := by
        rw [rest, List.append_nil] at cut
        rw [afterLastDot, cut, List.reverse_reverse]
      rw [whole] at long
      exact absurd long (Nat.lt_irrefl _)
  | cons dot stem =>
      have isDot : dot = '.' := by
        have stops := List.head?_dropWhile_not
          (fun letter => decide (letter ≠ '.')) name.reverse
        rw [rest] at stops
        simpa using stops
      have reversed := congrArg List.reverse cut
      rw [rest, isDot, List.reverse_reverse, List.reverse_append,
        List.reverse_cons, List.append_assoc] at reversed
      exact ⟨stem.reverse, reversed.symm⟩

private theorem extension_suffix (name : List Char) :
    name.take (name.length - (extension name).length) ++ extension name =
      name := by
  unfold extension
  split
  · simp
  · split
    · simp
    · next long =>
        obtain ⟨stem, spelled⟩ := split_lastDot
          (Nat.lt_of_succ_lt (Nat.lt_of_not_le long))
        generalize afterLastDot name = suffix at spelled ⊢
        subst spelled
        simp

/-- `replace_extension(extension() + ".bak")` appends `.bak`, whether or not
the name has an extension. -/
theorem backup_filename (path : Path) :
    path.backup.filename = path.filename ++ ['.', 'b', 'a', 'k'] := by
  have whole := extension_suffix path.filename
  unfold backup replaceExtension
  have startsWithDot : ∃ rest,
      extension path.filename ++ ['.', 'b', 'a', 'k'] = '.' :: rest := by
    unfold extension
    split
    · exact ⟨_, rfl⟩
    · split
      · exact ⟨_, rfl⟩
      · exact ⟨_, rfl⟩
  obtain ⟨rest, spelled⟩ := startsWithDot
  simp only [spelled]
  rw [← spelled, ← List.append_assoc, whole]

/-- Paths with different names are different. -/
private theorem ne_of_filename {path other : Path}
    (differs : path.filename ≠ other.filename) : path ≠ other :=
  fun same => differs (congrArg filename same)

/-- A name with something behind it is another one. -/
private theorem ne_append {name suffix : List Char} (nonEmpty : suffix ≠ []) :
    name ≠ name ++ suffix := by
  intro same
  exact nonEmpty (List.append_right_eq_self.mp same.symm)

/-- The backup is another file than the vault. -/
theorem ne_backup (path : Path) : path ≠ path.backup :=
  ne_of_filename (by rw [backup_filename]; exact ne_append (by simp))

/-- So is the lock file. -/
theorem ne_lock (path : Path) : path ≠ path.lock :=
  ne_of_filename (ne_append (by simp))

/-- So is every temporary file. -/
theorem ne_temporary (path : Path) (unique : List Char) :
    path ≠ path.temporary unique :=
  ne_of_filename (by
    rw [temporary, List.append_assoc]
    exact ne_append (by simp))

/-- The backup is not the lock file. -/
theorem backup_ne_lock (path : Path) : path.backup ≠ path.lock :=
  ne_of_filename (by
    rw [backup_filename, lock]
    intro same
    simpa using List.append_cancel_left same)

/-- Nor is it a temporary file of the vault. -/
theorem backup_ne_temporary (path : Path) (unique : List Char) :
    path.backup ≠ path.temporary unique :=
  ne_of_filename (by
    rw [backup_filename, temporary, List.append_assoc]
    intro same
    simpa using List.append_cancel_left same)

/-- The vault is no temporary file of the backup. -/
theorem ne_backup_temporary (path : Path) (unique : List Char) :
    path ≠ path.backup.temporary unique :=
  ne_of_filename (by
    rw [temporary, backup_filename, List.append_assoc, List.append_assoc]
    exact ne_append (by simp))

end Path

/-! ## Frames -/

/-- `path` has the same content after as before and had it at every recorded
moment in between. -/
structure Storage.Untouched (path : Path) (before after : Storage) : Prop where
  now : after.files path = before.files path
  during : ∃ recorded, after.history = recorded ++ before.history ∧
    ∀ files ∈ recorded, files path = before.files path

namespace Storage.Untouched

variable {path : Path} {first middle last : Storage}

theorem refl (path : Path) (storage : Storage) :
    Untouched path storage storage :=
  ⟨rfl, [], rfl, by simp⟩

/-- A path that two parts leave alone is left alone. -/
theorem trans (one : Untouched path first middle)
    (two : Untouched path middle last) : Untouched path first last := by
  obtain ⟨earlier, earlierEq, earlierSame⟩ := one.during
  obtain ⟨later, laterEq, laterSame⟩ := two.during
  refine ⟨two.now.trans one.now, later ++ earlier, ?_, ?_⟩
  · rw [laterEq, earlierEq, List.append_assoc]
  · intro files member
    rcases List.mem_append.mp member with inLater | inEarlier
    · exact (laterSame files inLater).trans one.now
    · exact earlierSame files inEarlier

/-- A new state of the directory with the same file at the path. -/
theorem advance {storage : Storage} {files : Files}
    (same : files path = storage.files path) :
    Untouched path storage (storage.advance files) :=
  ⟨same, [storage.files], rfl, by simp⟩

/-- Writing another file leaves the path alone. -/
theorem write {storage : Storage} {other : Path} {content : SecureBytes}
    (differs : path ≠ other) :
    Untouched path storage (storage.write other content) :=
  advance (Function.update_of_ne differs _ _)

/-- So does appending to another file. -/
theorem append {storage : Storage} {other : Path} {chunk : SecureBytes}
    (differs : path ≠ other) :
    Untouched path storage (storage.append other chunk) :=
  write differs

/-- So does removing one. -/
theorem remove {storage : Storage} {other : Path} (differs : path ≠ other) :
    Untouched path storage (storage.remove other) :=
  advance (Function.update_of_ne differs _ _)

/-- So does a rename that neither starts nor ends at the path. -/
theorem rename {storage : Storage} {source target : Path}
    (notSource : path ≠ source) (notTarget : path ≠ target) :
    Untouched path storage (storage.rename source target) :=
  advance (by
    rw [Function.update_of_ne notSource, Function.update_of_ne notTarget])

end Storage.Untouched

open Storage (Untouched)

/-! ## Writing loops -/

/-- The loop over `write` works on one file. -/
theorem writeAll_untouched {path other : Path} (differs : path ≠ other)
    (replies : List IoReply) (remaining : SecureBytes) (storage : Storage) :
    Untouched path storage (writeAll replies other remaining storage).2 := by
  induction replies generalizing remaining storage with
  | nil =>
      unfold writeAll
      split
      · exact .refl path storage
      · exact .append differs
  | cons reply replies inductionHypothesis =>
      unfold writeAll
      split
      · exact .refl path storage
      · cases reply with
        | interrupted => exact inductionHypothesis remaining storage
        | failed errno => exact .refl path storage
        | transferred count =>
            exact (Untouched.append differs).trans (inductionHypothesis _ _)

/-- When the loop ends normally the file has grown by exactly the data,
whatever the sizes of the partial writes. -/
theorem writeAll_content {path : Path} (replies : List IoReply)
    (remaining : SecureBytes) {content : SecureBytes} {storage : Storage}
    (present : storage.files path = some content)
    (finished : (writeAll replies path remaining storage).1 = .ok ()) :
    (writeAll replies path remaining storage).2.files path =
      some (content ++ remaining) := by
  induction replies generalizing remaining content storage with
  | nil =>
      unfold writeAll
      split
      · next done => simp [present, List.isEmpty_iff.mp done]
      · simp [Storage.append, Storage.write, Storage.advance, present]
  | cons reply replies inductionHypothesis =>
      unfold writeAll at finished ⊢
      split
      · next done => simp [present, List.isEmpty_iff.mp done]
      · next notDone =>
          rw [if_neg notDone] at finished
          cases reply with
          | interrupted => exact inductionHypothesis _ present finished
          | failed errno => cases finished
          | transferred count =>
              have grown :
                  (storage.append path (remaining.take count)).files path =
                    some (content ++ remaining.take count) := by
                simp [Storage.append, Storage.write, Storage.advance, present]
              have final := inductionHypothesis _ grown finished
              rw [List.append_assoc, List.take_append_drop] at final
              exact final

/-! ## Locks, copies and temporaries -/

/-- Taking the lock touches the lock file alone. -/
theorem acquireFileLock_untouched {path other : Path}
    (differs : path ≠ other.lock) (faults : LockFaults) (storage : Storage) :
    Untouched path storage (acquireFileLock faults other storage).2 := by
  unfold acquireFileLock
  cases faults.openErrno with
  | some errno => exact .refl path storage
  | none =>
      have opened : Untouched path storage
          (if (storage.files other.lock).isSome then storage
            else storage.write other.lock []) := by
        split
        · exact .refl path storage
        · exact .write differs
      cases faults.flockErrno with
      | some errno => exact opened
      | none => exact opened

/-- A copy touches its target alone. -/
theorem copyFile_untouched {path source target : Path}
    (differs : path ≠ target) (faults : WriteFaults) (storage : Storage) :
    Untouched path storage (copyFile faults source target storage) := by
  unfold copyFile
  split
  · exact (Untouched.write differs).trans (writeAll_untouched differs _ _ _)
  · exact .refl path storage

/-- The guard of the temporary file removes that file alone. -/
theorem releaseTempFile_untouched {path tmpPath : Path}
    (differs : path ≠ tmpPath) (faults : WriteFaults) (storage : Storage) :
    Untouched path storage (releaseTempFile faults tmpPath storage) := by
  unfold releaseTempFile
  split
  · exact .refl path storage
  · exact .remove differs

/-- A temporary file is there and empty, or it has not been made. -/
theorem createTemporary_cases (faults : WriteFaults) (tmpPath : Path)
    (storage : Storage) :
    (∃ error, createTemporary faults tmpPath storage = (.error error, storage)) ∨
      createTemporary faults tmpPath storage =
        (.ok (), storage.write tmpPath []) := by
  unfold createTemporary
  split
  · exact .inl ⟨_, rfl⟩
  · exact .inl ⟨_, rfl⟩
  · exact .inr rfl

/-- Filling the temporary file touches it alone. -/
theorem writeAndSync_untouched {path tmpPath : Path}
    (differs : path ≠ tmpPath) (faults : WriteFaults) (data : SecureBytes)
    (storage : Storage) :
    Untouched path storage (writeAndSync faults tmpPath data storage).2 := by
  have written := writeAll_untouched differs faults.writes data storage
  unfold writeAndSync
  revert written
  cases writeAll faults.writes tmpPath data storage with
  | mk result after =>
      intro written
      cases result with
      | error error => exact written
      | ok done =>
          cases faults.fsyncErrno with
          | some errno => exact written
          | none => exact written

/-- If that goes well, all the data is in it. -/
theorem writeAndSync_content {tmpPath : Path} (faults : WriteFaults)
    (data : SecureBytes) {content : SecureBytes} {storage : Storage}
    (present : storage.files tmpPath = some content)
    (finished : (writeAndSync faults tmpPath data storage).1 = .ok ()) :
    (writeAndSync faults tmpPath data storage).2.files tmpPath =
      some (content ++ data) := by
  have written := writeAll_content faults.writes data present
  unfold writeAndSync at finished ⊢
  revert written finished
  cases writeAll faults.writes tmpPath data storage with
  | mk result after =>
      intro finished written
      cases result with
      | error error => cases finished
      | ok done =>
          cases syncEq : faults.fsyncErrno with
          | some errno =>
              rw [syncEq] at finished
              cases finished
          | none => exact written rfl

/-! ## Atomic replacement -/

/-- How a call of `write_file_atomic` treats its target: it throws and the
target was never touched, or it returns and the target was replaced by the
data in the last recorded step. -/
inductive Replaced (path : Path) (data : SecureBytes) (before : Storage) :
    Except DuckpassError Unit → Storage → Prop where
  | threw {error : DuckpassError} {after : Storage}
      (untouched : Untouched path before after) :
      Replaced path data before (.error error) after
  | returned {middle : Storage} {files : Files}
      (untouched : Untouched path before middle)
      (content : files path = some data) :
      Replaced path data before (.ok ()) (middle.advance files)

/-- The backup copy goes to no other file than the backup. -/
theorem backupTarget_untouched {path other : Path} {createBackup : Bool}
    (notBackup : createBackup = true → other ≠ path.backup)
    (faults : WriteFaults) (storage : Storage) :
    Untouched other storage
      (backupTarget faults path createBackup storage).2 := by
  unfold backupTarget
  split
  · next wanted =>
      cases faults.existsErrno with
      | some errno => exact .refl other storage
      | none =>
          dsimp only
          split
          · exact copyFile_untouched (notBackup wanted) faults storage
          · exact .refl other storage
  · exact .refl other storage

/-- The ways in which the call can go once the data is synced. -/
theorem backupAndRename_cases (faults : WriteFaults) (path tmpPath : Path)
    (createBackup : Bool) (storage : Storage) :
    (∃ error, backupAndRename faults path tmpPath createBackup storage =
      (.error error, releaseTempFile faults tmpPath
        (backupTarget faults path createBackup storage).2)) ∨
    (backupTarget faults path createBackup storage).1 = .ok () ∧
      backupAndRename faults path tmpPath createBackup storage =
        (.ok (), (backupTarget faults path createBackup storage).2.rename
          tmpPath path) := by
  unfold backupAndRename
  cases backupTarget faults path createBackup storage with
  | mk result copied =>
      cases result with
      | error error => exact .inl ⟨error, rfl⟩
      | ok done =>
          cases faults.injected with
          | some error => exact .inl ⟨error, rfl⟩
          | none =>
              cases faults.renameErrno with
              | some errno => exact .inl ⟨_, rfl⟩
              | none => exact .inr ⟨rfl, rfl⟩

/-- With a complete temporary file the path is replaced at once or not at all.
-/
theorem backupAndRename_target {path tmpPath : Path} {data : SecureBytes}
    {storage : Storage} (faults : WriteFaults) (createBackup : Bool)
    (notTmp : path ≠ tmpPath) (tmpNotBackup : tmpPath ≠ path.backup)
    (ready : storage.files tmpPath = some data) :
    Replaced path data storage
      (backupAndRename faults path tmpPath createBackup storage).1
      (backupAndRename faults path tmpPath createBackup storage).2 := by
  have target : Untouched path storage
      (backupTarget faults path createBackup storage).2 :=
    backupTarget_untouched (fun _ => path.ne_backup) faults storage
  have source : Untouched tmpPath storage
      (backupTarget faults path createBackup storage).2 :=
    backupTarget_untouched (fun _ => tmpNotBackup) faults storage
  rcases backupAndRename_cases faults path tmpPath createBackup storage with
    ⟨error, outcome⟩ | ⟨_, outcome⟩
  · rw [outcome]
    exact .threw (target.trans (releaseTempFile_untouched notTmp faults _))
  · rw [outcome]
    refine .returned target ?_
    rw [Function.update_of_ne notTmp, Function.update_self, source.now, ready]

/-- Other files than the vault, its backup and the temporary one stay. -/
theorem backupAndRename_untouched {path tmpPath other : Path}
    {createBackup : Bool} (notTarget : other ≠ path)
    (notTmp : other ≠ tmpPath)
    (notBackup : createBackup = true → other ≠ path.backup)
    (faults : WriteFaults) (storage : Storage) :
    Untouched other storage
      (backupAndRename faults path tmpPath createBackup storage).2 := by
  have copied := backupTarget_untouched notBackup faults storage
  rcases backupAndRename_cases faults path tmpPath createBackup storage with
    ⟨error, outcome⟩ | ⟨_, outcome⟩
  · rw [outcome]
    exact copied.trans (releaseTempFile_untouched notTmp faults _)
  · rw [outcome]
    exact copied.trans (.rename notTmp notTarget)

/-- What comes before a replacement and leaves the path alone does not matter.
-/
theorem Replaced.after {path : Path} {data : SecureBytes}
    {before middle after : Storage} {result : Except DuckpassError Unit}
    (untouched : Untouched path before middle)
    (replaced : Replaced path data middle result after) :
    Replaced path data before result after := by
  cases replaced with
  | threw later => exact .threw (untouched.trans later)
  | returned later content => exact .returned (untouched.trans later) content

/-- The three ways `write_file_atomic` can go before the backup step. -/
theorem writeThrough_cases (faults : WriteFaults) (path tmpPath : Path)
    (data : SecureBytes) (createBackup : Bool) (storage : Storage) :
    (∃ error, writeThrough faults path tmpPath data createBackup storage =
      (.error error, releaseTempFile faults tmpPath storage)) ∨
    (∃ error synced,
      writeAndSync faults tmpPath data (storage.write tmpPath []) =
        (.error error, synced) ∧
      writeThrough faults path tmpPath data createBackup storage =
        (.error error, releaseTempFile faults tmpPath synced)) ∨
    (∃ synced,
      writeAndSync faults tmpPath data (storage.write tmpPath []) =
        (.ok (), synced) ∧
      writeThrough faults path tmpPath data createBackup storage =
        backupAndRename faults path tmpPath createBackup synced) := by
  unfold writeThrough
  rcases createTemporary_cases faults tmpPath storage with
    ⟨error, failed⟩ | created
  · rw [failed]
    exact .inl ⟨error, rfl⟩
  · rw [created]
    dsimp only
    cases writeAndSync faults tmpPath data (storage.write tmpPath []) with
    | mk result synced =>
        cases result with
        | error error => exact .inr (.inl ⟨error, synced, rfl, rfl⟩)
        | ok done => exact .inr (.inr ⟨synced, rfl, rfl⟩)

/-- `write_file_atomic` replaces the file at once or not at all. -/
theorem writeFileAtomic_target (faults : WriteFaults) (path : Path)
    (data : SecureBytes) (createBackup : Bool) (storage : Storage) :
    Replaced path data storage
      (writeFileAtomic faults path data createBackup storage).1
      (writeFileAtomic faults path data createBackup storage).2 := by
  have notTmp := path.ne_temporary faults.unique
  have tmpNotBackup := (path.backup_ne_temporary faults.unique).symm
  unfold writeFileAtomic
  generalize path.temporary faults.unique = tmpPath at notTmp tmpNotBackup ⊢
  have written : Untouched path storage
      (writeAndSync faults tmpPath data (storage.write tmpPath [])).2 :=
    (Untouched.write notTmp).trans
      (writeAndSync_untouched notTmp faults data _)
  have content := writeAndSync_content faults data
    (show (storage.write tmpPath []).files tmpPath = some [] by
      simp [Storage.write, Storage.advance])
  rcases writeThrough_cases faults path tmpPath data createBackup storage with
    ⟨error, outcome⟩ | ⟨error, synced, failed, outcome⟩ |
      ⟨synced, finished, outcome⟩
  · rw [outcome]
    exact .threw (releaseTempFile_untouched notTmp faults storage)
  · rw [failed] at written
    rw [outcome]
    exact .threw
      (written.trans (releaseTempFile_untouched notTmp faults synced))
  · rw [finished] at written content
    rw [outcome]
    exact .after written
      (backupAndRename_target faults createBackup notTmp tmpNotBackup
        (content rfl))

/-- Files other than the target, its temporary and (when asked for) its backup
are never touched. -/
theorem writeFileAtomic_untouched {path other : Path} (faults : WriteFaults)
    (createBackup : Bool) (notTarget : other ≠ path)
    (notTmp : other ≠ path.temporary faults.unique)
    (notBackup : createBackup = true → other ≠ path.backup)
    (data : SecureBytes) (storage : Storage) :
    Untouched other storage
      (writeFileAtomic faults path data createBackup storage).2 := by
  unfold writeFileAtomic
  generalize path.temporary faults.unique = tmpPath at notTmp ⊢
  have written : Untouched other storage
      (writeAndSync faults tmpPath data (storage.write tmpPath [])).2 :=
    (Untouched.write notTmp).trans
      (writeAndSync_untouched notTmp faults data _)
  rcases writeThrough_cases faults path tmpPath data createBackup storage with
    ⟨error, outcome⟩ | ⟨error, synced, failed, outcome⟩ |
      ⟨synced, finished, outcome⟩
  · rw [outcome]
    exact releaseTempFile_untouched notTmp faults storage
  · rw [failed] at written
    rw [outcome]
    exact written.trans (releaseTempFile_untouched notTmp faults synced)
  · rw [finished] at written
    rw [outcome]
    exact written.trans
      (backupAndRename_untouched notTarget notTmp notBackup faults synced)

end DuckPass
