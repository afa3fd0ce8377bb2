/-
Module: DuckPass.Proofs.SafeKeeping
Purpose: The vault file as the safe that it stands for, and an instance that
  works on it: what constructing one, a writing call and `rekey` do to the safe
  and to the accounts that the instance shows, whatever fails on the way.
Trusted boundary: the named properties of the primitives.
Main exports: Keeps, WorksOn, construct_worksOn, construct_honest, Written,
  execute_written, rekey_keeps
-/
import DuckPass.Proofs.Accounts
import DuckPass.Proofs.DiskMirror

namespace DuckPass

/-- The content of the vault file stands for the safe. -/
inductive Keeps (primitives : Primitives) (content : Option SecureBytes) :
    Option SafeBox → Prop where
  | missing (absent : content = none) : Keeps primitives content none
  | held {safe : SafeBox} {blob : SecureBytes} {vault : Vault}
      (present : content = some blob)
      (encrypted : SealedBlob primitives safe.masterPassword vault blob)
      (same : vault.accounts = safe.accounts) :
      Keeps primitives content (some safe)

/-- An instance on the safe that shows these accounts: an account of the safe
that it does not show it has deleted.  Its password may be an older one, and
then it cannot write. -/
structure WorksOn (path : Path) (service : VaultService) (safe : SafeBox)
    (view : Accounts) : Prop where
  vaultPath : service.vaultPath = path
  shows : service.vault.accounts = view
  spans : Spans service.deletedServices view safe.accounts.list

/-- An instance that has just read or written the file shows all of it. -/
theorem WorksOn.whole {path : Path} {masterPassword : SecureString}
    {vault : Vault} {deletedServices : List SecureString} {view : Accounts}
    (shows : vault.accounts = view) :
    WorksOn path ⟨path, masterPassword, vault, deletedServices⟩
      ⟨masterPassword, view⟩ view :=
  ⟨rfl, shows, fun _ member => .inr member⟩

theorem Keeps.present {primitives : Primitives} {content : Option SecureBytes}
    {safe : SafeBox} (keeps : Keeps primitives content (some safe)) :
    content.isNone = false := by
  cases keeps with
  | held present =>
      rw [present]
      rfl

theorem Keeps.absent {primitives : Primitives} {content : Option SecureBytes}
    (keeps : Keeps primitives content none) : content = none := by
  cases keeps with
  | missing absent => exact absent

section Construct

variable {primitives : Primitives} {faults : LoadFaults} {path : Path}
  {masterPassword : SecureString} {files : Files} {clock : Clock}

/-- Only the right password opens the safe, and then all of it is there. -/
theorem construct_worksOn (ideal : primitives.Ideal) {stored : Option SafeBox}
    {service : VaultService} (keeps : Keeps primitives (files path) stored)
    (constructed : VaultService.construct primitives faults path
      masterPassword files clock = .ok service) :
    ∃ safe, stored = some safe ∧ masterPassword = safe.masterPassword ∧
      WorksOn path service safe safe.accounts := by
  obtain ⟨⟨disk, rest⟩, loaded, same⟩ := bind_eq_ok.mp constructed
  obtain ⟨blob, content, _, opened⟩ := loadVault_eq_ok loaded
  cases same
  cases keeps with
  | missing absent =>
      rw [absent] at content
      cases content
  | @held safe _ vault present encrypted accounts =>
      rw [present] at content
      cases content
      obtain ⟨rfl, read⟩ := encrypted.open_eq ideal opened
      have diskEq : disk = (vault.restamp clock).1 := congrArg Prod.fst read
      refine ⟨safe, rfl, rfl, .whole ?_⟩
      rw [diskEq, Vault.accounts_restamp, accounts]

/-! ## Honest refusals -/

/-- An exception that does not say that the password is wrong. -/
inductive DuckpassError.Technical : DuckpassError → Prop where
  | vaultCorrupted (detail : String) : Technical (.vaultCorrupted detail)
  | vaultIo (path : String) : Technical (.vaultIo path)
  | crypto (message : String) : Technical (.crypto message)

theorem textBytes_append (first second : String) :
    textBytes (first ++ second) = textBytes first ++ textBytes second := by
  simp [textBytes]

/-- What is printed of a text begins as the text does. -/
theorem head_textBytes_append {before : String} {first : UInt8}
    (begins : (textBytes before).head? = some first) (printed : first ≠ 0)
    (after : String) :
    ((textBytes (before ++ after)).takeWhile (· ≠ 0)).head? = some first := by
  rw [List.head?_takeWhile, textBytes_append, List.head?_append, begins]
  simp [printed]

theorem DuckpassError.Technical.what_ne {error : DuckpassError}
    (technical : error.Technical) :
    error.what ≠ DuckpassError.wrongPassword.what := by
  have wrong : DuckpassError.wrongPassword.what.head? = some 0x49 := by decide
  have begins : error.what.head? = some 0x56 ∨ error.what.head? = some 0x46 ∨
      error.what.head? = some 0x43 := by
    cases technical with
    | vaultCorrupted detail =>
        exact .inl (head_textBytes_append (by decide) (by decide) detail)
    | vaultIo path =>
        exact .inr (.inl
          (head_textBytes_append (by decide) (by decide) path))
    | crypto message =>
        exact .inr (.inr
          (head_textBytes_append (by decide) (by decide) message))
  intro same
  rw [same, wrong] at begins
  revert begins
  decide

theorem readAll_technical {replies : List IoReply}
    {remaining buffer : SecureBytes} {error : DuckpassError}
    (failed : readAll replies remaining buffer = .error error) :
    error.Technical := by
  induction replies generalizing remaining buffer with
  | nil => cases failed
  | cons reply replies inductionHypothesis =>
      unfold readAll at failed
      split at failed
      · cases failed
      · split at failed
        · exact inductionHypothesis failed
        · cases failed
          exact .vaultIo _
        · cases failed
          exact .vaultCorrupted _
        · exact inductionHypothesis failed

theorem readFile_technical {reads : ReadFaults} {error : DuckpassError}
    (failed : readFile reads files path = .error error) :
    error.Technical := by
  unfold readFile at failed
  split at failed
  · cases failed
    exact .vaultIo _
  · cases failed
    exact .vaultIo _
  · split at failed
    · cases failed
      exact .vaultIo _
    · split at failed
      · cases failed
        exact .vaultIo _
      · split at failed
        · cases failed
        · exact readAll_technical failed

/-- What opens without a fault of the cipher fails with one only because of
it. -/
theorem openVaultBlob_technical {blob : SecureBytes}
    {cipherFault : Option String} {opened : Vault × Clock}
    {error : DuckpassError}
    (opens : openVaultBlob primitives none blob masterPassword clock =
      .ok opened)
    (failed : openVaultBlob primitives cipherFault blob masterPassword clock =
      .error error) : error.Technical := by
  cases cipherFault with
  | none =>
      rw [opens] at failed
      cases failed
  | some message =>
      unfold openVaultBlob at opens failed
      obtain ⟨header, headerEq, opens⟩ := bind_eq_ok.mp opens
      obtain ⟨key, keyEq, opens⟩ := bind_eq_ok.mp opens
      obtain ⟨plaintext, decrypted, opens⟩ := bind_eq_ok.mp opens
      rw [headerEq] at failed
      simp only [bind, Except.bind, keyEq] at failed
      unfold decryptData at decrypted failed
      split at decrypted
      · cases decrypted
      · next long =>
          rw [if_neg long] at failed
          cases failed
          exact .crypto message

/-- The right password is never called a wrong one. -/
theorem construct_honest (ideal : primitives.Ideal) {safe : SafeBox}
    {error : DuckpassError} (keeps : Keeps primitives (files path) (some safe))
    (failed : VaultService.construct primitives faults path masterPassword
      files clock = .error error)
    (wrong : error.what = DuckpassError.wrongPassword.what) :
    masterPassword ≠ safe.masterPassword := by
  rintro rfl
  cases keeps with
  | @held _ blob vault present encrypted =>
      refine DuckpassError.Technical.what_ne ?_ wrong
      unfold VaultService.construct loadVault at failed
      cases read : readFile faults.read files path with
      | error ioError =>
          rw [read] at failed
          cases failed
          exact readFile_technical read
      | ok content =>
          rw [read] at failed
          have found := (readFile_eq_ok read).1
          rw [present] at found
          cases found
          have opens := encrypted.opens ideal.toRoundTrips clock
          cases opened : openVaultBlob primitives faults.cipher blob
              safe.masterPassword clock with
          | error openError =>
              simp only [bind, Except.bind, opened] at failed
              cases failed
              exact openVaultBlob_technical opens opened
          | ok loaded =>
              simp only [bind, Except.bind, opened] at failed
              cases failed

end Construct

/-! ## Writing -/

section Write

variable {primitives : Primitives} {path : Path} {self : VaultService}
  {files : Files} {safe : SafeBox} {view : Accounts} {request : Request}

/-- How a writing request can end on an instance that works the safe: the
accounts do not admit it, or the change stays with the instance, or it is in
the safe too. -/
inductive Written (primitives : Primitives) (path : Path) (self : VaultService)
    (files : Files) (safe : SafeBox) (view : Accounts) (request : Request) :
    Outcome → Prop where
  | refused {error : DuckpassError}
      (invalid : request.updates view = .error error) :
      Written primitives path self files safe view request
        ⟨.error error, self, .start files⟩
  | unsaved {error : DuckpassError} {next : Accounts} {after : VaultService}
      {storage : Storage} (valid : request.updates view = .ok next)
      (untouched : storage.files path = files path)
      (works : WorksOn path after safe next) :
      Written primitives path self files safe view request
        ⟨.error error, after, storage⟩
  | saved {next : Accounts} {after : VaultService} {storage : Storage}
      (valid : request.updates view = .ok next)
      (keeps : Keeps primitives (storage.files path)
        (some { safe with accounts := next }))
      (works : WorksOn path after { safe with accounts := next } next) :
      Written primitives path self files safe view request
        ⟨.ok (), after, storage⟩

theorem Request.FromCommand.nextPassword (plain : request.FromCommand)
    (password : SecureString) : request.nextPassword password = password := by
  rcases plain with ⟨service, username, password', rfl⟩ | ⟨service, rfl⟩
  · rfl
  · rfl

/-- A merge with the file that holds the safe changes nothing that is shown. -/
theorem WorksOn.merged (ideal : primitives.Ideal)
    (works : WorksOn path self safe view)
    (keeps : Keeps primitives (files path) (some safe)) {clock : Clock}
    {merged : Vault}
    (merges : MergesTo primitives self (files self.vaultPath) clock merged) :
    merged.accounts = view := by
  cases keeps with
  | @held _ blob vault present encrypted same =>
      rw [works.vaultPath, present] at merges
      have spans := works.spans
      rw [← same, ← works.shows] at spans
      rw [merges.accounts ideal encrypted spans, works.shows]

/-- Only an instance that has the password of the safe gets past a merge. -/
theorem Keeps.masterPassword_of_merges (ideal : primitives.Ideal)
    (onPath : self.vaultPath = path)
    (keeps : Keeps primitives (files path) (some safe)) {clock : Clock}
    {merged : Vault}
    (merges : MergesTo primitives self (files self.vaultPath) clock merged) :
    self.masterPassword = safe.masterPassword := by
  cases keeps with
  | @held _ blob vault present encrypted =>
      rw [onPath, present] at merges
      cases merges with
      | missing absent => cases absent
      | loaded content opened =>
          cases content
          exact (encrypted.open_eq ideal opened).1

/-- A writing request of a subcommand, from its checks to its end. -/
theorem execute_written (ideal : primitives.Ideal)
    (plain : request.FromCommand) (works : WorksOn path self safe view)
    (keeps : Keeps primitives (files path) (some safe)) (env : CommitEnv)
    (clock : Clock) :
    Written primitives path self files safe view request
      (request.execute primitives env clock self (.start files)) := by
  have checks := @stage_accounts self clock request plain
  rw [works.shows] at checks
  rw [execute_eq]
  cases finished : request.stage clock self with
  | error error =>
      rw [finished] at checks
      exact .refused checks.symm
  | ok staged =>
      rw [finished] at checks
      have valid : request.updates view = .ok staged.vault.accounts :=
        checks.symm
      have staging := stage_eq_ok finished
      have worksStaged : WorksOn path staged safe staged.vault.accounts :=
        { vaultPath := staging.vaultPath_eq.trans works.vaultPath
          shows := rfl
          spans := staging.spans plain (works.shows ▸ works.spans) }
      have ended := locked_cases primitives request env
        (request.clockAfter clock) staged files
      dsimp only
      revert ended
      generalize request.locked primitives env (request.clockAfter clock)
        staged (.start files) = outcome
      intro ended
      cases ended with
      | refused vaultFile =>
          refine .unsaved valid ?_ worksStaged
          rw [← worksStaged.vaultPath]
          exact vaultFile.now
      | failed merges vaultFile =>
          have same := worksStaged.merged ideal keeps merges
          refine .unsaved valid ?_
            ⟨worksStaged.vaultPath, same, worksStaged.spans⟩
          rw [← worksStaged.vaultPath]
          exact vaultFile.now
      | @returned merged blob storage merges encrypted replaced =>
          have same := worksStaged.merged ideal keeps merges
          have content : storage.files path = some blob := by
            rw [← worksStaged.vaultPath]
            cases replaced with
            | returned _ content => exact content
          rw [plain.nextPassword, keeps.masterPassword_of_merges ideal
            worksStaged.vaultPath merges] at encrypted ⊢
          refine .saved valid (.held content encrypted same) ?_
          rw [worksStaged.vaultPath]
          exact .whole same
      | unkept isRekey =>
          rcases plain with ⟨_, _, _, rfl⟩ | ⟨_, rfl⟩
          · cases isRekey
          · cases isRekey

/-- `rekey` on an instance that has just been constructed leaves the safe alone
and throws, or replaces the master password of the safe and nothing else; then
it may still throw. -/
theorem rekey_keeps (ideal : primitives.Ideal)
    (works : WorksOn path self safe safe.accounts)
    (keeps : Keeps primitives (files path) (some safe)) (env : CommitEnv)
    (clock : Clock) (newMasterPassword : SecureString) {outcome : Outcome}
    (ended : self.rekey primitives env clock newMasterPassword (.start files) =
      outcome) :
    (∃ error, outcome.result = .error error ∧
        outcome.storage.files path = files path) ∨
      newMasterPassword ≠ [] ∧
        Keeps primitives (outcome.storage.files path)
          (some { safe with masterPassword := newMasterPassword }) := by
  have executed := execute_cases primitives (.rekey newMasterPassword) env clock
    self files
  rw [Request.execute, ended] at executed
  cases executed with
  | @rejected error => exact .inl ⟨error, rfl, rfl⟩
  | ran staging locked =>
      cases staging with
      | rekey given =>
          cases locked with
          | @refused error storage vaultFile =>
              rw [works.vaultPath] at vaultFile
              exact .inl ⟨error, rfl, vaultFile.now⟩
          | @failed error _ storage _ vaultFile =>
              rw [works.vaultPath] at vaultFile
              exact .inl ⟨error, rfl, vaultFile.now⟩
          | @returned merged blob storage merges encrypted replaced =>
              have same := works.merged ideal keeps merges
              have content : storage.files path = some blob := by
                rw [← works.vaultPath]
                cases replaced with
                | returned _ content => exact content
              exact .inr ⟨given, .held content encrypted same⟩
          | @unkept _ error merged blob storage isRekey _ merges encrypted
              replaced =>
              cases isRekey
              have same := works.merged ideal keeps merges
              have content : storage.files path = some blob := by
                rw [← works.vaultPath]
                cases replaced with
                | returned _ content => exact content
              exact .inr ⟨given, .held content encrypted same⟩

end Write

end DuckPass
