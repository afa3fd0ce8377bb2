/-
Module: DuckPass.System.Symbolic
Purpose: A symbolic instance of the cryptographic primitives, in the style of
  term models: a ciphertext spells out what it was sealed with.  It is ideal
  and can be run, so that runs of the whole system can be evaluated.
Trusted boundary: none
Main exports: Symbolic.primitives, Symbolic.ideal, Symbolic.calm,
  Symbolic.files, Symbolic.onEmptyVault, Symbolic.entriesOnDisk
-/
import DuckPass.Proofs.Disk
import DuckPass.System.SharedVault

namespace DuckPass.Symbolic

/-- A byte string with its end marked. -/
def frame : SecureBytes → SecureBytes
  | [] => [0]
  | byte :: bytes => 1 :: byte :: frame bytes

/-- What is left of a byte string that begins with `expected`. -/
def strip : (expected bytes : SecureBytes) → Option SecureBytes
  | [], bytes => some bytes
  | _ :: _, [] => none
  | byte :: expected, other :: bytes =>
      if byte = other then strip expected bytes else none

/-- What follows the expected bytes. -/
theorem strip_append (expected bytes : SecureBytes) :
    strip expected (expected ++ bytes) = some bytes := by
  induction expected with
  | nil => rfl
  | cons byte expected inductionHypothesis =>
      rw [List.cons_append, strip, if_pos rfl]
      exact inductionHypothesis

theorem eq_append_of_strip {expected bytes rest : SecureBytes}
    (stripped : strip expected bytes = some rest) :
    bytes = expected ++ rest := by
  induction expected generalizing bytes with
  | nil =>
      cases stripped
      rfl
  | cons byte expected inductionHypothesis =>
      cases bytes with
      | nil => cases stripped
      | cons other bytes =>
          rw [strip] at stripped
          split at stripped
          · next same =>
              rw [inductionHypothesis stripped, same]
              rfl
          · cases stripped

/-- Two framed strings followed by anything agree only if the strings do. -/
theorem frame_append_inj {bytes other rest otherRest : SecureBytes}
    (same : frame bytes ++ rest = frame other ++ otherRest) :
    bytes = other := by
  induction bytes generalizing other with
  | nil =>
      cases other with
      | nil => rfl
      | cons byte other => simp [frame] at same
  | cons byte bytes inductionHypothesis =>
      cases other with
      | nil => simp [frame] at same
      | cons otherByte other =>
          simp only [frame, List.cons_append, List.cons.injEq,
            true_and] at same
          rw [same.1, inductionHypothesis same.2]

def tag : Bytes tagBytes := ⟨List.replicate tagBytes 0, rfl⟩

/-- What a ciphertext begins with. -/
def label (key iv aad : SecureBytes) : SecureBytes :=
  frame key ++ (frame iv ++ frame aad)

/-- The key is the password with the salt; a ciphertext is the plaintext behind
its label. -/
def primitives : Primitives where
  argon2idHashRaw _ password salt := .ok (password ++ salt)
  gcmSeal key iv aad plaintext := (label key iv aad ++ plaintext, tag)
  gcmOpen key iv aad ciphertext otherTag :=
    if otherTag = tag.val then strip (label key iv aad) ciphertext else none

/-- The symbolic cipher opens what it has sealed and nothing else. -/
theorem ideal : primitives.Ideal where
  open_seal key iv aad plaintext := by
    simp only [primitives, if_true]
    exact strip_append _ _
  seal_of_open := by
    intro key iv aad ciphertext otherTag plaintext opened
    simp only [primitives] at opened
    split at opened
    · next verified =>
        exact ⟨(eq_append_of_strip opened).symm, verified.symm⟩
    · cases opened
  other_key := by
    intro key otherKey iv aad plaintext differs
    simp only [primitives, if_true]
    cases stripped : strip (label otherKey iv aad)
        (label key iv aad ++ plaintext) with
    | none => rfl
    | some rest =>
        have same := eq_append_of_strip stripped
        simp only [label, List.append_assoc] at same
        exact absurd (frame_append_inj same) differs
  password_of_key := by
    intro params password otherPassword salt key one two
    simp only [primitives, Except.ok.injEq] at one two
    rw [← two] at one
    exact List.append_cancel_right one

/-! ## Runs that can be evaluated -/

/-- A locked section in which no call fails and the random bytes are zero. -/
def calm : CommitEnv where
  lock := .none
  load := .none
  encrypt := ⟨some ⟨List.replicate saltBytes 0, rfl⟩,
    some ⟨List.replicate ivBytes 0, rfl⟩, none⟩
  backupWrite := .none
  vaultWrite := .none
  protect := none

def masterPassword : SecureString := [0x6D]

def service : SecureString := [0x73]

/-- An entry of the service with a one-byte password. -/
def entry (password : UInt8) (time : UInt64) : VaultEntry :=
  ⟨service, [1], [password], [], time⟩

/-- The two steps of a `save`. -/
def save (id : Nat) (now : UInt64) : List Event :=
  [.call id .save (.constant now), .commit id calm (.constant now)]

/-- The vault file `./v.dp`. -/
def path : Path := ⟨['.'], ['v', '.', 'd', 'p']⟩

def blob (vault : Vault) (password : SecureString) : SecureBytes :=
  packHeader (List.replicate saltBytes 0) (List.replicate ivBytes 0) ++
    (primitives.gcmSeal (password ++ List.replicate saltBytes 0)
        (List.replicate ivBytes 0)
        (packHeader (List.replicate saltBytes 0) (List.replicate ivBytes 0))
        vault.serialize).1 ++ tag.val

/-- A blob of the symbolic cipher is one that the vault is sealed in. -/
theorem encrypted (vault : Vault) (password : SecureString)
    (fits : vault.serialize.length ≤ intMax) :
    SealedBlob primitives password vault (blob vault password) where
  fits := fits
  shape := ⟨⟨List.replicate saltBytes 0, rfl⟩, ⟨List.replicate ivBytes 0, rfl⟩,
    password ++ List.replicate saltBytes 0, rfl, List.append_assoc _ _ _⟩

/-- A directory with nothing but a vault file. -/
def files (vault : Vault) (password : SecureString) : Files :=
  Function.update (fun _ => none) path (some (blob vault password))

/-- That directory with an empty vault, before anyone opens it. -/
def onEmptyVault : System path :=
  .initial path (files Vault.empty masterPassword)

/-- What `load_vault` reads from the vault file. -/
def entriesOnDisk (files : Files) (password : SecureString)
    (clock : Clock) : Option (List VaultEntry) :=
  match loadVault primitives .none files path password clock with
  | .ok (vault, _) => some vault.entries
  | .error _ => none

/-- A file whose entries can be listed is one that opens. -/
theorem opensWith_of_entriesOnDisk {files : Files} {password : SecureString}
    (clock : Clock) (entries : List VaultEntry)
    (read : entriesOnDisk files password clock = some entries) :
    OpensWith primitives (files path) password := by
  unfold entriesOnDisk at read
  split at read
  · next loaded =>
      obtain ⟨blob, present, _, opened⟩ := loadVault_eq_ok loaded
      exact ⟨blob, clock, _, present, opened⟩
  · cases read

/-- The state a run leads to. -/
def reached (start : System path) (events : List Event) : System path :=
  match start.run primitives events with
  | some (system, _) => system
  | none => start

theorem reached_eq (start : System path) (events : List Event) :
    reached start events =
      Run.reached (System.step primitives) start events := by
  unfold reached Run.reached System.run
  cases Run.run (System.step primitives) start events with
  | none => rfl
  | some result => rfl

/-- A run of which the replies are known has come to the state that is computed.
-/
theorem run_reached (start : System path) (events : List Event)
    (replies : List Reply)
    (answers : (start.run primitives events).map Prod.snd = some replies) :
    start.run primitives events = some (reached start events, replies) := by
  rw [reached_eq]
  exact Run.run_reached answers

/-- The same for a single step. -/
theorem step_reached (start : System path) (event : Event) (reply : Reply)
    (answer : (start.step primitives event).map Prod.snd = some reply) :
    start.step primitives event = some (reached start [event], reply) := by
  rw [reached_eq]
  exact Run.step_reached answer

/-- A run from the directory of an empty vault: the replies, and the vault file
at the end. -/
def outcome (events : List Event) (clock : Clock) :
    Option (List Reply × Option (List VaultEntry)) :=
  match onEmptyVault.run primitives events with
  | none => none
  | some (system, replies) =>
      some (replies, entriesOnDisk system.files masterPassword clock)

end DuckPass.Symbolic
