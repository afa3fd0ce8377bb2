/-
Module: DuckPass.Proofs.ShellPassword
Purpose: Who can change the master password from the interactive shell: the
  text typed as the current password is read and never compared, so that only
  sessions that type it truthfully keep to the rule.
Trusted boundary: none beyond the named properties of the primitives.
Main exports: Shell.Holds, KeepsPassword, TypesCurrent,
  shell_keeps_password, step_rekeyAgain_ignores_current,
  rekey_command_needs_current, shell_rekey_with_wrong_current
-/
import DuckPass.Core.Shell
import DuckPass.Lib.Run
import DuckPass.Proofs.Rekey

namespace DuckPass

variable {primitives : Primitives} {path : Path}

/-! ## Passwords of a file -/

/-- The same passwords open both contents. -/
def SamePasswords (primitives : Primitives)
    (before after : Option SecureBytes) : Prop :=
  ∀ password, OpensWith primitives after password ↔
    OpensWith primitives before password

/-- A file that did not change keeps its password. -/
theorem SamePasswords.of_eq {before after : Option SecureBytes}
    (same : after = before) : SamePasswords primitives before after := by
  intro password
  rw [same]

/-- Two contents that one password opens are opened by that one only. -/
theorem SamePasswords.of_common (ideal : primitives.Ideal)
    {before after : Option SecureBytes} {password : SecureString}
    (one : OpensWith primitives before password)
    (two : OpensWith primitives after password) :
    SamePasswords primitives before after := by
  intro other
  constructor
  · intro opens
    rw [opens.unique ideal two]
    exact one
  · intro opens
    rw [opens.unique ideal one]
    exact two

/-- The session is on a vault file that some password opens. -/
structure Shell.OnVault (primitives : Primitives) (path : Path)
    (shell : Shell) : Prop where
  onPath : shell.vaultService.vaultPath = path
  opens : ∃ password, OpensWith primitives (shell.files path) password

/-- The session's master password opens its vault file. -/
structure Shell.Holds (primitives : Primitives) (path : Path)
    (shell : Shell) : Prop where
  onPath : shell.vaultService.vaultPath = path
  opens : OpensWith primitives (shell.files path)
    shell.vaultService.masterPassword

/-- A shell that holds its password works on its file. -/
theorem Shell.Holds.onVault {shell : Shell}
    (holds : shell.Holds primitives path) : shell.OnVault primitives path :=
  ⟨holds.onPath, _, holds.opens⟩

/-- A shell that has started has opened the file. -/
theorem start_holds {faults : LoadFaults} {masterPassword : SecureString}
    {files : Files} {clock : Clock} {shell : Shell}
    (started : Shell.start primitives faults path masterPassword files clock =
      .ok shell) :
    shell.Holds primitives path ∧ shell.prompt = .command := by
  obtain ⟨vaultService, constructed, same⟩ := bind_eq_ok.mp started
  cases same
  obtain ⟨onPath, passwordEq, _, blob, rest, present, opened⟩ :=
    construct_eq_ok constructed
  refine ⟨⟨onPath, ?_⟩, rfl⟩
  rw [passwordEq]
  exact ⟨blob, clock, _, present, opened⟩

/-! ## One call -/

/-- What a call does to the password that opens the file: it stays, or the call
is a `rekey` by an instance that has it, and then the file goes on with the new
one, and so does the instance if it could keep it. -/
inductive PasswordEffect (primitives : Primitives) (path : Path)
    (vaultService : VaultService) (request : Request) (env : CommitEnv)
    (password : SecureString) (outcome : Outcome) : Prop where
  | kept
      (samePassword :
        outcome.self.masterPassword = vaultService.masterPassword)
      (opens : OpensWith primitives (outcome.storage.files path) password)
      (noRekey : ∀ newPwd, request = .rekey newPwd → outcome.result ≠ .ok ())
  | changed {newPwd : SecureString} (isRekey : request = .rekey newPwd)
      (given : newPwd ≠ [])
      (held : vaultService.masterPassword = password)
      (newPassword : outcome.self.masterPassword = newPwd ∨
        env.protect ≠ none)
      (opens : OpensWith primitives (outcome.storage.files path) newPwd)

/-- A `rekey` stages a password that is not empty. -/
theorem Staging.rekey_given {clock : Clock} {self after : VaultService}
    {newPwd : SecureString}
    (staging : Staging clock self (.rekey newPwd) after) : newPwd ≠ [] := by
  cases staging with
  | rekey given => exact given

/-- Which call it is and how it ends decides about the password. -/
theorem execute_password (ideal : primitives.Ideal) {self : VaultService}
    {files : Files} {password : SecureString} (onPath : self.vaultPath = path)
    (opens : OpensWith primitives (files path) password)
    (request : Request) (env : CommitEnv) (clock : Clock) :
    let outcome := request.execute primitives env clock self (.start files)
    outcome.self.vaultPath = path ∧
      PasswordEffect primitives path self request env password outcome := by
  subst onPath
  dsimp only
  have executed := execute_cases primitives request env clock self files
  generalize request.execute primitives env clock self (.start files) =
    outcome at executed ⊢
  cases executed with
  | rejected => exact ⟨rfl, .kept rfl opens (by simp)⟩
  | @ran staged _ staging ended =>
      have samePath := staging.vaultPath_eq
      have samePassword := staging.masterPassword_eq
      -- The merge of a call that gets past it has opened the file.
      have held {merged : Vault} {clock : Clock}
          (merges : MergesTo primitives staged (files staged.vaultPath) clock
            merged) : staged.masterPassword = password := by
        obtain ⟨blob, _, _, present, _⟩ := id opens
        rw [samePath] at merges
        exact (merges.opensWith present).unique ideal opens
      refine ⟨ended.vaultPath_eq.trans samePath, ?_⟩
      rw [← samePath] at opens ⊢
      cases ended with
      | refused vaultFile =>
          have same := vaultFile.now
          exact .kept samePassword (same ▸ opens) (by simp)
      | failed merges vaultFile =>
          have same := vaultFile.now
          exact .kept samePassword (same ▸ opens) (by simp)
      | returned merges encrypted replaced =>
          have had := held merges
          have newOpens := encrypted.opensWith ideal.toRoundTrips
          cases replaced with
          | returned _ content =>
              rw [← content] at newOpens
              cases request with
              | rekey newPwd =>
                  exact .changed rfl staging.rekey_given
                    (samePassword.symm.trans had) (.inl rfl) newOpens
              | addEntry => exact .kept samePassword (had ▸ newOpens) (by simp)
              | updateEntry =>
                  exact .kept samePassword (had ▸ newOpens) (by simp)
              | deleteEntry =>
                  exact .kept samePassword (had ▸ newOpens) (by simp)
              | save => exact .kept samePassword (had ▸ newOpens) (by simp)
      | unkept isRekey fault merges encrypted replaced =>
          cases isRekey
          have newOpens := encrypted.opensWith ideal.toRoundTrips
          cases replaced with
          | returned _ content =>
              rw [← content] at newOpens
              refine .changed rfl staging.rekey_given
                (samePassword.symm.trans (held merges)) (.inr ?_) newOpens
              rw [fault]
              simp

/-! ## One line -/

/-- What a line can lead to: another prompt with nothing done, a call that is
not a `rekey`, or a `rekey` to the password that was typed twice. -/
inductive ShellTransition (primitives : Primitives) (shell : Shell)
    (line : TypedLine) : Shell × ShellReply → Prop where
  | moved (prompt : Prompt) (reply : ShellReply) :
      ShellTransition primitives shell line
        ({ shell with prompt := prompt }, reply)
  | called {request : Request} (notRekey : ∀ newPwd, request ≠ .rekey newPwd) :
      ShellTransition primitives shell line
        (shell.call primitives line request)
  | rekeyed {currPwd newPwd : SecureString}
      (asked : shell.prompt = .rekeyAgain currPwd newPwd)
      (same : line.text = newPwd) (given : newPwd ≠ []) :
      ShellTransition primitives shell line
        (shell.call primitives line (.rekey newPwd))

namespace ShellTransition

variable {shell : Shell} {line : TypedLine}

/-- The line of a command. -/
theorem runCommand :
    ShellTransition primitives shell line
      (shell.runCommand primitives line) := by
  unfold Shell.runCommand
  split
  · exact .moved _ _
  · split
    · exact .moved _ _
    · exact .called (by simp)
    · exact .moved _ _
    · split
      · exact .moved _ _
      · exact .moved _ _
    all_goals exact .moved _ _

/-- The answer to the question for a service. -/
theorem readService :
    ShellTransition primitives shell line (shell.readService line.text) := by
  unfold Shell.readService
  split
  · exact .moved _ _
  · split
    · exact .moved _ _
    · exact .moved _ _

/-- The answer to the question for a field. -/
theorem readField (field : SecureString) (next : SecureString → Prompt) :
    ShellTransition primitives shell line (shell.readField field next) := by
  unfold Shell.readField
  split
  · exact .moved _ _
  · exact .moved _ _

/-- The last answer of `edit`. -/
theorem finishEdit (service newUser newPass : SecureString) :
    ShellTransition primitives shell line
      (shell.finishEdit primitives line service newUser newPass) := by
  unfold Shell.finishEdit
  dsimp only
  split
  · split
    · exact .moved _ _
    · exact .called (by simp)
  · exact .called (by simp)

/-- The last answer of `rekey`. -/
theorem finishRekey {currPwd newPwd : SecureString}
    (asked : shell.prompt = .rekeyAgain currPwd newPwd) :
    ShellTransition primitives shell line
      (shell.finishRekey primitives line newPwd) := by
  unfold Shell.finishRekey
  split
  · exact .moved _ _
  · next same =>
      split
      · exact .moved _ _
      · next given =>
          rw [List.isEmpty_iff] at given
          exact .rekeyed asked (of_not_not same).symm given

end ShellTransition

/-- Every line that the shell takes. -/
theorem shell_step_cases {shell : Shell} {line : TypedLine}
    {result : Shell × ShellReply}
    (stepped : shell.step primitives line = some result) :
    ShellTransition primitives shell line result := by
  unfold Shell.step at stepped
  split at stepped <;> cases stepped
  · exact .runCommand
  · exact .readService
  · exact .readField _ _
  · exact .readField _ _
  · exact .called (by simp)
  · exact .moved _ _
  · exact .moved _ _
  · exact .finishEdit _ _ _
  · exact .moved _ _
  · exact .moved _ _
  · next asked => exact .finishRekey asked

/-! ## The rule -/

/-- The rule that the prompts suggest: the vault file opens with the same
passwords as before, or the line ends a `rekey` at whose first prompt the
session's master password was typed, and the two new passwords are the same and
not empty. -/
def KeepsPassword (primitives : Primitives) (path : Path) (shell : Shell)
    (line : TypedLine) (next : Shell) : Prop :=
  SamePasswords primitives (shell.files path) (next.files path) ∨
    ∃ newPwd, shell.prompt =
        .rekeyAgain shell.vaultService.masterPassword newPwd ∧
      line.text = newPwd ∧ newPwd ≠ []

/-- The condition on a line: if it repeats a new password that is not empty and
not the one the session has, then what was typed as the current password is the
one the session has. -/
def TypesCurrent (shell : Shell) (line : TypedLine) : Prop :=
  ∀ currPwd newPwd, shell.prompt = .rekeyAgain currPwd newPwd →
    line.text = newPwd → newPwd ≠ [] →
    newPwd ≠ shell.vaultService.masterPassword →
    currPwd = shell.vaultService.masterPassword

section Session

variable {shell next : Shell} {line : TypedLine} {reply : ShellReply}

/-- Every line leaves the password of the file, or it ends a `rekey` of a
session that had it. -/
theorem Shell.OnVault.step (ideal : primitives.Ideal)
    (onVault : shell.OnVault primitives path)
    (stepped : shell.step primitives line = some (next, reply)) :
    next.OnVault primitives path ∧
      (next.vaultService.masterPassword = shell.vaultService.masterPassword ∧
          SamePasswords primitives (shell.files path) (next.files path) ∨
        ∃ currPwd newPwd, shell.prompt = .rekeyAgain currPwd newPwd ∧
          line.text = newPwd ∧ newPwd ≠ [] ∧
          OpensWith primitives (shell.files path)
            shell.vaultService.masterPassword ∧
          (next.vaultService.masterPassword = newPwd ∨
            line.env.protect ≠ none) ∧
          OpensWith primitives (next.files path) newPwd) := by
  obtain ⟨password, before⟩ := onVault.opens
  have effect := execute_password ideal onVault.onPath before
  cases shell_step_cases stepped with
  | moved => exact ⟨⟨onVault.onPath, _, before⟩, .inl ⟨rfl, .of_eq rfl⟩⟩
  | @called request notRekey =>
      obtain ⟨onPath, effect⟩ := effect request line.env line.clock
      cases effect with
      | kept samePassword opens =>
          exact ⟨⟨onPath, _, opens⟩,
            .inl ⟨samePassword, .of_common ideal before opens⟩⟩
      | changed isRekey => exact absurd isRekey (notRekey _)
  | @rekeyed currPwd newPwd asked same given =>
      obtain ⟨onPath, effect⟩ := effect (.rekey newPwd) line.env line.clock
      cases effect with
      | kept samePassword opens =>
          exact ⟨⟨onPath, _, opens⟩,
            .inl ⟨samePassword, .of_common ideal before opens⟩⟩
      | changed isRekey _ held newPassword opens =>
          cases isRekey
          rw [← held] at before
          exact ⟨⟨onPath, _, opens⟩, .inr ⟨currPwd, newPwd, asked, same, given,
            before, newPassword, opens⟩⟩

/-- The session's password opens the vault file after a line too, if a `rekey`
that the line ends can keep its new one. -/
theorem Shell.Holds.step (ideal : primitives.Ideal)
    (holds : shell.Holds primitives path) (kept : line.env.protect = none)
    (stepped : shell.step primitives line = some (next, reply)) :
    next.Holds primitives path := by
  obtain ⟨after, effect⟩ := holds.onVault.step ideal stepped
  refine ⟨after.onPath, ?_⟩
  rcases effect with
    ⟨samePassword, same⟩ | ⟨_, _, _, _, _, _, newPassword, opens⟩
  · rw [samePassword]
    exact (same _).mpr holds.opens
  · rw [newPassword.resolve_right (not_not_intro kept)]
    exact opens

/-- A line that meets the condition keeps to the rule. -/
theorem Shell.OnVault.keepsPassword (ideal : primitives.Ideal)
    (onVault : shell.OnVault primitives path)
    (stepped : shell.step primitives line = some (next, reply))
    (typed : TypesCurrent shell line) :
    KeepsPassword primitives path shell line next := by
  obtain ⟨_, effect⟩ := onVault.step ideal stepped
  rcases effect with
    ⟨_, same⟩ | ⟨currPwd, newPwd, asked, repeated, given, before, _, opens⟩
  · exact .inl same
  · by_cases unchanged : newPwd = shell.vaultService.masterPassword
    · rw [unchanged] at opens
      exact .inl (.of_common ideal before opens)
    · have current := typed currPwd newPwd asked repeated given unchanged
      rw [current] at asked
      exact .inr ⟨newPwd, asked, repeated, given⟩

end Session

/-- A session works on one file. -/
theorem shell_run_onVault (ideal : primitives.Ideal) {shell last : Shell}
    {lines : List TypedLine} {replies : List ShellReply}
    (onVault : shell.OnVault primitives path)
    (finished : Run.run (Shell.step primitives) shell lines =
      some (last, replies)) : last.OnVault primitives path :=
  Run.invariant_of_step
    (fun onVault stepped => (Shell.OnVault.step ideal onVault stepped).1)
    onVault finished

/-- And with its password, unless a rekey fails after it has written the file.
-/
theorem shell_run_holds (ideal : primitives.Ideal) {shell last : Shell}
    {lines : List TypedLine} {replies : List ShellReply}
    (holds : shell.Holds primitives path)
    (kept : ∀ line ∈ lines, line.env.protect = none)
    (finished : Run.run (Shell.step primitives) shell lines =
      some (last, replies)) : last.Holds primitives path :=
  Run.invariant
    (fun holds kept stepped => Shell.Holds.step ideal holds kept stepped) holds
    (Run.along_of_forall kept _) finished

/-- In every session and after every sequence of typed lines the session's
master password opens the vault file, as long as every `rekey` could keep its
new one; and if every line of the sequence meets the condition, the next one
too, then that line keeps to the rule. -/
theorem shell_keeps_password (ideal : primitives.Ideal)
    {faults : LoadFaults} {masterPassword : SecureString} {files : Files}
    {clock : Clock} {start shell next : Shell} {lines : List TypedLine}
    {line : TypedLine} {replies : List ShellReply} {reply : ShellReply}
    (started : Shell.start primitives faults path masterPassword files clock =
      .ok start)
    (typed : Run.Along (Shell.step primitives) TypesCurrent start
      (lines ++ [line]))
    (finished : Run.run (Shell.step primitives) start lines =
      some (shell, replies))
    (stepped : shell.step primitives line = some (next, reply)) :
    ((∀ line ∈ lines, line.env.protect = none) →
      OpensWith primitives (shell.files path)
        shell.vaultService.masterPassword) ∧
      KeepsPassword primitives path shell line next := by
  have holds := (start_holds started).1
  have onVault := shell_run_onVault ideal holds.onVault finished
  exact ⟨fun kept => (shell_run_holds ideal holds kept finished).opens,
    onVault.keepsPassword ideal stepped (typed.last finished).2⟩

/-! ## Without the condition -/

/-- What was typed as the current password makes no difference at all. -/
theorem step_rekeyAgain_ignores_current (shell : Shell) (line : TypedLine)
    (currPwd otherPwd newPwd : SecureString) :
    ({ shell with prompt := .rekeyAgain currPwd newPwd } : Shell).step
        primitives line =
      ({ shell with prompt := .rekeyAgain otherPwd newPwd } : Shell).step
        primitives line := by
  unfold Shell.step Shell.finishRekey
  dsimp only
  split
  · rfl
  · split
    · rfl
    · rfl

/-- A `rekey` that returns keeps to the rule exactly if the current password
was typed, or the new one is the old one. -/
theorem returned_rekey_keepsPassword_iff (ideal : primitives.Ideal)
    {shell next : Shell} {line : TypedLine} {currPwd newPwd : SecureString}
    (holds : shell.Holds primitives path)
    (asked : shell.prompt = .rekeyAgain currPwd newPwd)
    (stepped : shell.step primitives line =
      some (next, .called (.ok ()))) :
    KeepsPassword primitives path shell line next ↔
      currPwd = shell.vaultService.masterPassword ∨
        newPwd = shell.vaultService.masterPassword := by
  have finished : shell.step primitives line =
      some (shell.finishRekey primitives line newPwd) := by
    unfold Shell.step
    rw [asked]
  rw [finished] at stepped
  unfold Shell.finishRekey at stepped
  split at stepped
  · cases stepped
  · next repeated =>
      split at stepped
      · cases stepped
      · next notEmpty =>
          rw [List.isEmpty_iff] at notEmpty
          have called := Option.some.inj stepped
          have returned := ShellReply.called.inj (congrArg Prod.snd called)
          have effect := (execute_password ideal holds.onPath holds.opens
            (.rekey newPwd) line.env line.clock).2
          have opens : OpensWith primitives (next.files path) newPwd := by
            have nextEq : (shell.call primitives line (.rekey newPwd)).1 =
                next := congrArg Prod.fst called
            rw [← nextEq]
            cases effect with
            | kept _ _ noRekey => exact absurd returned (noRekey newPwd rfl)
            | changed isRekey _ _ _ newOpens =>
                cases isRekey
                exact newOpens
          constructor
          · rintro (same | ⟨otherPwd, otherAsked, _⟩)
            · have before := (same newPwd).mp opens
              exact .inr (before.unique ideal holds.opens)
            · rw [asked] at otherAsked
              cases otherAsked
              exact .inl rfl
          · rintro (current | unchanged)
            · rw [current] at asked
              exact .inr ⟨newPwd, asked, (of_not_not repeated).symm, notEmpty⟩
            · rw [unchanged] at opens
              exact .inl (.of_common ideal holds.opens opens)

/-- The subcommand changes the password of a vault file only if the one that
was typed as the current one opens it. -/
theorem rekey_command_needs_current (ideal : primitives.Ideal)
    {faults : LoadFaults} {env : CommitEnv}
    {oldPwd newPwd1 newPwd2 password : SecureString} {clock : Clock}
    {files : Files} (opens : OpensWith primitives (files path) password) :
    let after := (rekeyCommand primitives faults env path oldPwd newPwd1
      newPwd2 clock files).2
    SamePasswords primitives (files path) (after path) ∨
      oldPwd = password ∧ newPwd1 = newPwd2 ∧ newPwd1 ≠ [] ∧
        OpensWith primitives (after path) newPwd1 := by
  unfold rekeyCommand
  dsimp only
  split
  · exact .inl (.of_eq rfl)
  · next vaultService constructed =>
      obtain ⟨onPath, passwordEq, _, blob, rest, present, opened⟩ :=
        construct_eq_ok constructed
      have held : OpensWith primitives (files path)
          vaultService.masterPassword := by
        rw [passwordEq]
        exact ⟨blob, clock, _, present, opened⟩
      split
      · exact .inl (.of_eq rfl)
      · next repeated =>
          have effect := (execute_password ideal onPath held
            (.rekey newPwd1) env clock).2
          cases effect with
          | kept _ stillOpens =>
              exact .inl (.of_common ideal held stillOpens)
          | changed isRekey given _ _ newOpens =>
              cases isRekey
              rw [passwordEq] at held
              exact .inr ⟨held.unique ideal opens, of_not_not repeated, given,
                newOpens⟩

namespace ShellPassword

open Symbolic (calm masterPassword)

def typed (text : SecureString) : TypedLine :=
  ⟨text, calm, .constant 5, .ok []⟩

def files : Files := Symbolic.files Vault.empty masterPassword

/-- The session on the empty vault, before the first line. -/
def start : Shell :=
  ⟨⟨Symbolic.path, masterPassword, Vault.empty, []⟩, files, .command⟩

/-- `rekey`, a current password, and the first of the new ones. -/
def rekeyTo (currPwd : SecureString) : List TypedLine :=
  [typed (textBytes "rekey"), typed currPwd, typed [0x6E]]

/-- The session when the new password is asked for again. -/
def asked (currPwd : SecureString) : Shell :=
  { start with prompt := .rekeyAgain currPwd [0x6E] }

/-- The session after the new password was repeated. -/
def rekeyed (currPwd : SecureString) : Shell :=
  Run.reached (Shell.step Symbolic.primitives) (asked currPwd) [typed [0x6E]]

theorem started : Shell.start Symbolic.primitives .none Symbolic.path
    masterPassword files (.constant 5) = .ok start := by
  have encrypted := Symbolic.encrypted Vault.empty masterPassword (by decide)
  have opened := encrypted.opens Symbolic.ideal.toRoundTrips (.constant 5)
  have loaded : loadVault Symbolic.primitives .none files Symbolic.path
      masterPassword (.constant 5) = .ok (Vault.empty, .constant 5) := by
    have small : (Symbolic.blob Vault.empty masterPassword).length ≤
        maxFileSize := by decide +kernel
    rw [loadVault_of_openVaultBlob rfl small]
    exact opened
  unfold Shell.start VaultService.construct
  rw [loaded]
  rfl

theorem run_rekeyTo (currPwd : SecureString) :
    Run.run (Shell.step Symbolic.primitives) start (rekeyTo currPwd) =
      some (asked currPwd, [.prompted, .prompted, .prompted]) := by
  rfl

theorem step_rekeyed (currPwd : SecureString) :
    (asked currPwd).step Symbolic.primitives (typed [0x6E]) =
      some (rekeyed currPwd, .called (.ok ())) := by
  apply Run.step_reached
  rw [show ((asked currPwd).step Symbolic.primitives (typed [0x6E])) =
    (asked []).step Symbolic.primitives (typed [0x6E]) from
      step_rekeyAgain_ignores_current start _ currPwd [] [0x6E]]
  decide +kernel

/-- A line elsewhere is no new password. -/
theorem typesCurrent_of_prompt {shell : Shell} {line : TypedLine}
    (elsewhere : ∀ currPwd newPwd,
      shell.prompt ≠ .rekeyAgain currPwd newPwd) : TypesCurrent shell line :=
  fun currPwd newPwd now => absurd now (elsewhere currPwd newPwd)

end ShellPassword

open ShellPassword in
/-- A session that types its master password when it is asked for the current
one: the last line keeps to the rule. -/
theorem shell_keeps_password_own :
    OpensWith Symbolic.primitives ((asked Symbolic.masterPassword).files
        Symbolic.path) Symbolic.masterPassword ∧
      KeepsPassword Symbolic.primitives Symbolic.path
        (asked Symbolic.masterPassword) (typed [0x6E])
        (rekeyed Symbolic.masterPassword) := by
  have along : Run.Along (Shell.step Symbolic.primitives) TypesCurrent start
      (rekeyTo Symbolic.masterPassword ++ [typed [0x6E]]) := by
    refine Run.along_cons (typesCurrent_of_prompt ?_) rfl
      (Run.along_cons (typesCurrent_of_prompt ?_) rfl
        (Run.along_cons (typesCurrent_of_prompt ?_) rfl
          (Run.along_cons ?_ (step_rekeyed _) trivial)))
    · exact fun _ _ now => nomatch now
    · exact fun _ _ now => nomatch now
    · exact fun _ _ now => nomatch now
    · intro currPwd newPwd now _ _ _
      cases now
      rfl
  obtain ⟨opens, keeps⟩ := shell_keeps_password Symbolic.ideal started along
    (run_rekeyTo _) (step_rekeyed _)
  refine ⟨opens ?_, keeps⟩
  simp [rekeyTo, typed, Symbolic.calm]

open ShellPassword in
/-- A session on a vault with the master password `m`: at the prompt for the
current password `x` is typed, and `n` twice for the new one.  The `rekey`
returns, and from then on the vault file opens with `n` and not with `m`. -/
theorem shell_rekey_with_wrong_current :
    Shell.start Symbolic.primitives .none Symbolic.path Symbolic.masterPassword
        files (.constant 5) = .ok start ∧
      Run.run (Shell.step Symbolic.primitives) start (rekeyTo [0x78]) =
        some (asked [0x78], [.prompted, .prompted, .prompted]) ∧
      (asked [0x78]).step Symbolic.primitives (typed [0x6E]) =
        some (rekeyed [0x78], .called (.ok ())) ∧
      Symbolic.entriesOnDisk (rekeyed [0x78]).files Symbolic.masterPassword
        (.constant 6) = none ∧
      Symbolic.entriesOnDisk (rekeyed [0x78]).files [0x6E] (.constant 6) =
        some [] ∧
      ¬ KeepsPassword Symbolic.primitives Symbolic.path (asked [0x78])
        (typed [0x6E]) (rekeyed [0x78]) := by
  refine ⟨started, run_rekeyTo _, step_rekeyed _, by decide +kernel,
    by decide +kernel, ?_⟩
  have holds := shell_run_holds Symbolic.ideal (start_holds started).1
    (by simp [rekeyTo, typed, Symbolic.calm]) (run_rekeyTo [0x78])
  have condition := returned_rekey_keepsPassword_iff Symbolic.ideal holds
    rfl (step_rekeyed [0x78])
  rw [condition]
  decide

end DuckPass
