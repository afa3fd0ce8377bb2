/-
Module: DuckPass.Core.LocalStorage
Purpose: The file operations of `local_storage.cpp` over a directory of named
  files, with every system call free to fail and every intermediate directory
  state recorded, so that a crash is a prefix of a recorded run.
Trusted boundary: rename replaces the target in one step.
Main exports: Path, Storage, readFile, acquireFileLock, writeFileAtomic
-/
import DuckPass.Core.Types
import Mathlib.Logic.Function.Basic

namespace DuckPass

/-! ## Paths -/

/-- A file: the directory it is in (`"."` for an empty parent path) and its
name there. -/
structure Path where
  parentDir : List Char
  filename : List Char
deriving Repr, Inhabited, DecidableEq

namespace Path

/-- `path.string()`. -/
def string (path : Path) : String :=
  String.ofList (path.parentDir ++ '/' :: path.filename)

/-- The characters after the last dot of a name. -/
def afterLastDot (name : List Char) : List Char :=
  (name.reverse.takeWhile (· ≠ '.')).reverse

/-- `std::filesystem::path::extension` of a file name: from the last dot on,
unless that dot is the first character or the name is `.` or `..`. -/
def extension (name : List Char) : List Char :=
  if name = ['.'] ∨ name = ['.', '.'] then []
  else if name.length ≤ (afterLastDot name).length + 1 then []
  else '.' :: afterLastDot name

/-- `std::filesystem::path::replace_extension` on a file name. -/
def replaceExtension (name replacement : List Char) : List Char :=
  name.take (name.length - (extension name).length) ++
    match replacement with
    | [] => []
    | '.' :: rest => '.' :: rest
    | replacement => '.' :: replacement

/-- The `.bak` file next to `path`. -/
def backup (path : Path) : Path :=
  { path with
    filename := replaceExtension path.filename
      (extension path.filename ++ ['.', 'b', 'a', 'k']) }

/-- `path.string() + ".lock"`. -/
def lock (path : Path) : Path :=
  { path with filename := path.filename ++ ['.', 'l', 'o', 'c', 'k'] }

/-- The temporary file of one `write_file_atomic` call.  `unique` stands for
the process id, the clock value and the counter that end its name. -/
def temporary (path : Path) (unique : List Char) : Path :=
  { path with
    filename := path.filename ++ ['.', 't', 'm', 'p', '.'] ++ unique }

end Path

/-! ## Directory states -/

/-- The contents of the files that exist. -/
abbrev Files := Path → Option SecureBytes

/-- The directory now, and every state it was in since recording began, most
recent first. -/
structure Storage where
  files : Files
  history : List Files

namespace Storage

/-- A directory with nothing recorded yet. -/
def start (files : Files) : Storage := ⟨files, []⟩

/-- Change the directory in one step. -/
def advance (storage : Storage) (files : Files) : Storage :=
  ⟨files, storage.files :: storage.history⟩

def write (storage : Storage) (path : Path) (content : SecureBytes) :
    Storage :=
  storage.advance (Function.update storage.files path (some content))

def append (storage : Storage) (path : Path) (chunk : SecureBytes) : Storage :=
  storage.write path ((storage.files path).getD [] ++ chunk)

def remove (storage : Storage) (path : Path) : Storage :=
  storage.advance (Function.update storage.files path none)

/-- `rename(2)`: the target takes the content of the source, which is gone. -/
def rename (storage : Storage) (source target : Path) : Storage :=
  storage.advance
    (Function.update (Function.update storage.files target
      (storage.files source)) source none)

end Storage

/-! ## System calls

A fault record says how the calls of one operation go.  An `Option String` is
the `strerror` text of a call that fails. -/

/-- What `read(2)` or `write(2)` answers: a byte count, `EINTR`, or an
error. -/
inductive IoReply where
  | transferred (count : Nat)
  | interrupted
  | failed (errno : String)
deriving Repr, Inhabited, DecidableEq

/-- `write_all`.  Once the listed replies are used up the rest is written in
one go. -/
def writeAll : List IoReply → Path → SecureBytes → Storage →
    Except DuckpassError Unit × Storage
  | [], path, remaining, storage =>
      if remaining.isEmpty then (.ok (), storage)
      else (.ok (), storage.append path remaining)
  | reply :: replies, path, remaining, storage =>
      if remaining.isEmpty then (.ok (), storage)
      else
        match reply with
        | .interrupted => writeAll replies path remaining storage
        | .failed errno =>
            (.error (.vaultIo ("POSIX write failed: " ++ errno)), storage)
        | .transferred count =>
            writeAll replies path (remaining.drop count)
              (storage.append path (remaining.take count))

/-- `read_all`.  A count of zero is the end of the file. -/
def readAll : List IoReply → SecureBytes → SecureBytes →
    Except DuckpassError SecureBytes
  | [], remaining, buffer => .ok (buffer ++ remaining)
  | reply :: replies, remaining, buffer =>
      if remaining.isEmpty then .ok buffer
      else
        match reply with
        | .interrupted => readAll replies remaining buffer
        | .failed errno =>
            .error (.vaultIo ("POSIX read failed: " ++ errno))
        | .transferred 0 =>
            .error (.vaultCorrupted "Unexpected EOF while reading storage")
        | .transferred (count + 1) =>
            readAll replies (remaining.drop (count + 1))
              (buffer ++ remaining.take (count + 1))

structure ReadFaults where
  openErrno : Option String
  fstatErrno : Option String
  reads : List IoReply
deriving Repr, Inhabited, DecidableEq

def ReadFaults.none : ReadFaults := ⟨Option.none, Option.none, []⟩

/-- The size cap of `read_file`, 500 MB. -/
def maxFileSize : Nat := 500 * 1024 * 1024

/-- `read_file`. -/
def readFile (faults : ReadFaults) (files : Files) (path : Path) :
    Except DuckpassError SecureBytes :=
  match faults.openErrno, files path with
  | some errno, _ =>
      .error (.vaultIo
        ("Failed to open file: " ++ path.string ++ " (" ++ errno ++ ")"))
  | none, none =>
      .error (.vaultIo ("Failed to open file: " ++ path.string ++
        " (No such file or directory)"))
  | none, some content =>
      match faults.fstatErrno with
      | some errno =>
          .error (.vaultIo
            ("Failed to stat file: " ++ path.string ++ " (" ++ errno ++ ")"))
      | none =>
          if content.length > maxFileSize then
            .error (.vaultIo
              "Vault file is too large (over 500MB). Possible tampering.")
          else if content.isEmpty then .ok []
          else readAll faults.reads content []

structure LockFaults where
  openErrno : Option String
  flockErrno : Option String
deriving Repr, Inhabited, DecidableEq

def LockFaults.none : LockFaults := ⟨Option.none, Option.none⟩

/-- `acquire_file_lock`: open the lock file, creating it if need be, and wait
for the exclusive lock. -/
def acquireFileLock (faults : LockFaults) (path : Path) (storage : Storage) :
    Except DuckpassError Unit × Storage :=
  match faults.openErrno with
  | some errno =>
      (.error (.vaultIo ("Failed to open lock file: " ++ path.lock.string ++
        " (" ++ errno ++ ")")), storage)
  | none =>
      let storage :=
        if (storage.files path.lock).isSome then storage
        else storage.write path.lock []
      match faults.flockErrno with
      | some errno =>
          (.error (.vaultIo ("Failed to acquire flock on: " ++
            path.lock.string ++ " (" ++ errno ++ ")")), storage)
      | none => (.ok (), storage)

/-! ## Atomic replacement -/

structure WriteFaults where
  unique : List Char
  createErrno : Option String
  writes : List IoReply
  fsyncErrno : Option String
  existsErrno : Option String
  copyErrno : Option String
  copyWrites : List IoReply
  injected : Option DuckpassError
  renameErrno : Option String
  removeFails : Bool
deriving Repr, Inhabited, DecidableEq

def WriteFaults.none : WriteFaults where
  unique := []
  createErrno := Option.none
  writes := []
  fsyncErrno := Option.none
  existsErrno := Option.none
  copyErrno := Option.none
  copyWrites := []
  injected := Option.none
  renameErrno := Option.none
  removeFails := false

/-- `open` with `O_CREAT | O_EXCL`. -/
def createTemporary (faults : WriteFaults) (tmpPath : Path)
    (storage : Storage) : Except DuckpassError Unit × Storage :=
  match faults.createErrno, storage.files tmpPath with
  | some errno, _ =>
      (.error (.vaultIo ("Failed to create temporary file: " ++
        tmpPath.string ++ " (" ++ errno ++ ")")), storage)
  | none, some _ =>
      (.error (.vaultIo ("Failed to create temporary file: " ++
        tmpPath.string ++ " (File exists)")), storage)
  | none, none => (.ok (), storage.write tmpPath [])

/-- The `try` block: write everything, then `fsync`. -/
def writeAndSync (faults : WriteFaults) (tmpPath : Path) (data : SecureBytes)
    (storage : Storage) : Except DuckpassError Unit × Storage :=
  match writeAll faults.writes tmpPath data storage with
  | (.error error, storage) => (.error error, storage)
  | (.ok (), storage) =>
      match faults.fsyncErrno with
      | some errno =>
          (.error (.vaultIo ("Failed to sync file to disk: " ++ errno)),
            storage)
      | none => (.ok (), storage)

/-- `std::filesystem::copy_file` with `overwrite_existing`.  It truncates the
target and then fills it; its error is only reported on the terminal. -/
def copyFile (faults : WriteFaults) (source target : Path)
    (storage : Storage) : Storage :=
  match faults.copyErrno, storage.files source with
  | none, some content =>
      (writeAll faults.copyWrites target content
        (storage.write target [])).2
  | _, _ => storage

/-- The destructor of an undismissed `TempFileGuard`. -/
def releaseTempFile (faults : WriteFaults) (tmpPath : Path)
    (storage : Storage) : Storage :=
  if faults.removeFails then storage else storage.remove tmpPath

/-- Step 2 of `write_file_atomic`: copy what is at the path, if anything is.
`std::filesystem::exists` throws when it cannot tell. -/
def backupTarget (faults : WriteFaults) (path : Path) (createBackup : Bool)
    (storage : Storage) : Except DuckpassError Unit × Storage :=
  if createBackup then
    match faults.existsErrno with
    | some errno =>
        (.error (.runtimeError ("filesystem error: status: " ++ errno ++ " [" ++
          path.string ++ "]")), storage)
    | none =>
        (.ok (),
          if (storage.files path).isSome then
            copyFile faults path path.backup storage
          else storage)
  else (.ok (), storage)

/-- Steps 2 and 3 of `write_file_atomic`: the backup copy, the test seam and
the rename over the target. -/
def backupAndRename (faults : WriteFaults) (path tmpPath : Path)
    (createBackup : Bool) (storage : Storage) :
    Except DuckpassError Unit × Storage :=
  match backupTarget faults path createBackup storage with
  | (.error error, storage) =>
      (.error error, releaseTempFile faults tmpPath storage)
  | (.ok (), storage) =>
      match faults.injected, faults.renameErrno with
      | some error, _ => (.error error, releaseTempFile faults tmpPath storage)
      | none, some errno =>
          (.error (.vaultIo
            ("Failed to atomically rename vault file: " ++ errno)),
            releaseTempFile faults tmpPath storage)
      | none, none => (.ok (), storage.rename tmpPath path)

/-- `write_file_atomic` with the temporary path spelled out. -/
def writeThrough (faults : WriteFaults) (path tmpPath : Path)
    (data : SecureBytes) (createBackup : Bool) (storage : Storage) :
    Except DuckpassError Unit × Storage :=
  match createTemporary faults tmpPath storage with
  | (.error error, storage) =>
      (.error error, releaseTempFile faults tmpPath storage)
  | (.ok (), storage) =>
      match writeAndSync faults tmpPath data storage with
      | (.error error, storage) =>
          (.error error, releaseTempFile faults tmpPath storage)
      | (.ok (), storage) =>
          backupAndRename faults path tmpPath createBackup storage

/-- `write_file_atomic`.  The result of the final directory sync is ignored by
the source and changes no content. -/
def writeFileAtomic (faults : WriteFaults) (path : Path) (data : SecureBytes)
    (createBackup : Bool) (storage : Storage) :
    Except DuckpassError Unit × Storage :=
  writeThrough faults path (path.temporary faults.unique) data createBackup
    storage

end DuckPass
